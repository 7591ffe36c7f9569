import Stencil.Yaml.Node
import Stencil.Yaml.Written

namespace Stencil

namespace Yaml

/-- Drops spaces, line ends and comments. -/
def skipGaps : (inComment : Bool) → Text → Text
  | _, [] => []
  | inComment, c :: r =>
    if isBreak c then skipGaps false r
    else if inComment || c.is '#' then skipGaps true r
    else if c.is ' ' then skipGaps false r
    else c :: r

/-- What comes next in a flow collection. -/
def nextToken (t : Text) : Text := skipGaps false t

/-- A scalar at the start of a text, and what follows it. Outside of flow collections its further
lines have some indent at least. -/
def readScalar (inFlow : Bool) (least : Nat) (t : Text) : Option (Node × Text) :=
  if t.head?.any isQuote then (readQuoted t).map fun p => (.quoted p.1, p.2)
  else (readPlain inFlow least t).map fun p => (.plain p.1, p.2)

mutual

/-- A flow node at the start of a text, and what follows it. Each of these functions takes a bound
on its steps, and twice the length of the text is enough: between two steps that read nothing a code
point is read. -/
def flowNode : (steps : Nat) → Text → Option (Node × Text)
  | 0, _ => none
  | n + 1, t =>
    match t with
    | [] => none
    | c :: r =>
      if c.is '[' then flowItems n [] r
      else if c.is '\x7b' then flowEntries n [] r
      else readScalar true 0 (c :: r)

/-- The rest of a list, of which some items are read in reverse. -/
def flowItems : (steps : Nat) → List Node → Text → Option (Node × Text)
  | 0, _, _ => none
  | n + 1, done, t =>
    match nextToken t with
    | [] => none
    | c :: r =>
      if c.is ']' then some (.list done.reverse, r)
      else do
        let (d, rest) ← flowNode n (c :: r)
        let (d, rest) ← flowPair n (c :: r) d (nextToken rest)
        flowEnd n (d :: done) (nextToken rest)

/-- An item that a colon follows is a mapping of one entry. The item starts at `start`. -/
def flowPair : (steps : Nat) → (start : Text) → Node → Text → Option (Node × Text)
  | 0, _, _, _ => none
  | n + 1, start, d, t =>
    match t with
    | [] => none
    | c :: r =>
      if c.is ':' then do
        let key ← if isSimpleKey start (c :: r) then some d else none
        let (v, rest) ← flowValue n (nextToken r)
        some (.mapping [(key, v)], rest)
      else some (d, c :: r)

/-- A comma and the rest of a list, or its end. -/
def flowEnd : (steps : Nat) → List Node → Text → Option (Node × Text)
  | 0, _, _ => none
  | n + 1, done, t =>
    match t with
    | [] => none
    | c :: r =>
      if c.is ',' then flowItems n done r
      else if c.is ']' then some (.list done.reverse, r)
      else none

/-- The value of an entry; nothing before the next entry is null. -/
def flowValue : (steps : Nat) → Text → Option (Node × Text)
  | 0, _ => none
  | n + 1, t =>
    match t with
    | [] => none
    | c :: r =>
      if c.is ',' || c.is ']' || c.is '\x7d' then some (.null, c :: r) else flowNode n (c :: r)

/-- The rest of a mapping, of which some entries are read in reverse. -/
def flowEntries : (steps : Nat) → List (Node × Node) → Text → Option (Node × Text)
  | 0, _, _ => none
  | n + 1, done, t =>
    match nextToken t with
    | [] => none
    | c :: r =>
      if c.is '\x7d' then some (.mapping done.reverse, r)
      else do
        let (key, rest) ← flowNode n (c :: r)
        match nextToken rest with
        | [] => none
        | e :: s =>
          if e.is ':' then
            if isSimpleKey (c :: r) (e :: s) then
              let (v, rest) ← flowValue n (nextToken s)
              flowNext n ((key, v) :: done) (nextToken rest)
            else none
          else flowNext n ((key, .null) :: done) (e :: s)

/-- A comma and the rest of a mapping, or its end. -/
def flowNext : (steps : Nat) → List (Node × Node) → Text → Option (Node × Text)
  | 0, _, _ => none
  | n + 1, done, t =>
    match t with
    | [] => none
    | c :: r =>
      if c.is ',' then flowEntries n done r
      else if c.is '\x7d' then some (.mapping done.reverse, r)
      else none

end

/-- A flow node at the start of a text, and what follows it. -/
def readFlow (t : Text) : Option (Node × Text) := flowNode (4 * t.length + 4) t

end Yaml

end Stencil
