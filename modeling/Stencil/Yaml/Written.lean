import Stencil.Text.Quoted

namespace Stencil

namespace Yaml

/-- The end of a line: line feed, next line, line separator or paragraph separator. -/
def isBreak (c : CodePoint) : Bool :=
  c.is '\n' || c.val == 0x85 || c.val == 0x2028 || c.val == 0x2029

def isSpace (c : CodePoint) : Bool := c.is ' '

def isSpaceOrTab (c : CodePoint) : Bool := c.is ' ' || c.is '\t'

/-- Space, tab, or the end of a line. -/
def isGap (c : CodePoint) : Bool := isSpaceOrTab c || isBreak c

/-- Whether a text is at its end or goes on with a gap. -/
def atGap (t : Text) : Bool := t.head?.all isGap

/-- The break that a scalar keeps of a break: a next line is a line feed. -/
def keptBreak (c : CodePoint) : CodePoint := if c.val = 0x85 then '\n' else c

/-- The breaks that a text starts with, with what is skipped between them, and how many code points
this takes. -/
def readBreaks (skipped : CodePoint → Bool) : Text → Text × Nat
  | [] => ([], 0)
  | c :: r =>
    if isBreak c then
      let p := readBreaks skipped r
      (keptBreak c :: p.1, p.2 + 1)
    else if skipped c then
      let p := readBreaks skipped r
      (p.1, p.2 + 1)
    else ([], 0)

/-- What a scalar holds in the place of one break and some more. One line break becomes a space; of
more than one the first is left out. -/
def folded (first : CodePoint) (more : Text) : Text :=
  if !first.is '\n' then first :: more
  else if more = [] then [CodePoint.ofChar ' ']
  else more

/-- What a quoted scalar holds in the place of the gap that a text starts with, and how many code
points the gap has. -/
def readGap (t : Text) : Text × Nat :=
  let spaces := t.takeWhile isSpaceOrTab
  match t.drop spaces.length with
  | [] => (spaces, spaces.length)
  | c :: r =>
    if isBreak c then
      let p := readBreaks isSpaceOrTab r
      (folded (keptBreak c) p.1, spaces.length + 1 + p.2)
    else (spaces, spaces.length)

/-- The code points that short escapes stand for. -/
def shortEscapes : List (Char × Nat) :=
  [('0', 0), ('a', 7), ('b', 8), ('t', 9), ('\t', 9), ('n', 10), ('v', 11), ('f', 12), ('r', 13),
    ('e', 27), (' ', 32), ('"', 34), ('\\', 92), ('/', 47), ('N', 0x85), ('_', 0xA0), ('L', 0x2028),
    ('P', 0x2029)]

/-- The number of hexadecimal digits of an escape by number. -/
def escapeWidth? (c : CodePoint) : Option Nat :=
  if c = 'x' then some 2 else if c = 'u' then some 4 else if c = 'U' then some 8 else none

/-- What the escape at the start of a text, after its backslash, stands for, and how many code
points it has. An escaped break stands for the breaks behind it. -/
def readEscape (t : Text) : Option (Text × Nat) :=
  match t with
  | [] => none
  | c :: r =>
    if isBreak c then
      let p := readBreaks isSpaceOrTab r
      some (p.1, p.2 + 1)
    else match escapeWidth? c with
      | some w =>
        let ds := r.take w
        if ds.length = w then
          ((Text.toNatIn? 16 ds).bind CodePoint.ofNat?).map fun d => ([d], w + 1)
        else none
      | none =>
        (shortEscapes.find? fun e => CodePoint.ofChar e.1 == c).map fun e =>
          ([CodePoint.ofNat e.2], 1)

/-- The rest of a text between quotes of some kind after `skip` code points that are read already,
and what follows the closing quote. -/
def readUntil (quote : CodePoint) : (skip : Nat) → Text → Option (Text × Text)
  | _, [] => none
  | skip + 1, _ :: r => readUntil quote skip r
  | 0, c :: r =>
    if c = quote then
      if quote = Text.singleQuote && r.head? = some quote then
        (readUntil quote 1 r).map fun p => (c :: p.1, p.2)
      else some ([], r)
    else if isGap c then
      let gap := readGap (c :: r)
      (readUntil quote (gap.2 - 1) r).map fun p => (gap.1 ++ p.1, p.2)
    else if quote = Text.doubleQuote && c = Text.backslash then
      match readEscape r with
      | some e => (readUntil quote e.2 r).map fun p => (e.1 ++ p.1, p.2)
      | none => none
    else (readUntil quote 0 r).map fun p => (c :: p.1, p.2)

def isQuote (c : CodePoint) : Bool := c == Text.singleQuote || c == Text.doubleQuote

/-- A quoted scalar at the start of a text, and what follows it. -/
def readQuoted : Text → Option (Text × Text)
  | [] => none
  | c :: r => if isQuote c then readUntil c 0 r else none

/-- Whether a plain scalar may start here. -/
def startsPlain (inFlow : Bool) : Text → Bool
  | [] => false
  | c :: r =>
    let indicators := Text.of "-?:,[]\x7b\x7d#&*!|>'\"%@\x60"
    !(indicators.contains c || isGap c) ||
      (!atGap r && (c.is '-' || (!inFlow && (c.is '?' || c.is ':'))))

/-- Whether a plain scalar ends before a code point that these ones follow. -/
def endsPlain (inFlow : Bool) (c : CodePoint) (r : Text) : Bool :=
  (c.is ':' && (atGap r || (inFlow && r.head?.any fun d => (Text.of ",[]\x7b\x7d").contains d))) ||
    (inFlow && (Text.of ",?[]\x7b\x7d").contains c) || isBreak c || c.is '\t'

/-- The code points of a plain scalar on this line, and what follows them. A comment needs a gap
before it. -/
def spanPlain (inFlow : Bool) : (afterGap : Bool) → Text → Text × Text
  | _, [] => ([], [])
  | afterGap, c :: r =>
    if endsPlain inFlow c r || (afterGap && c.is '#') then ([], c :: r)
    else
      let p := spanPlain inFlow (isSpace c) r
      (c :: p.1, p.2)

/-- A text without the spaces at its end. -/
def trimSpacesRight (t : Text) : Text := (t.reverse.dropWhile isSpace).reverse

/-- A plain scalar on up to so many lines, and what follows it. Outside of flow collections a line
belongs to it only if it has some indent at least. -/
def readLines (inFlow : Bool) (least : Nat) : (lines : Nat) → Text → Text × Text
  | 0, t => ([], t)
  | lines + 1, t =>
    let (line, rest) := spanPlain inFlow true t
    let line := trimSpacesRight line
    match rest with
    | [] => (line, [])
    | c :: r =>
      if !isBreak c then (line, c :: r)
      else
        let (breaks, count) := readBreaks isSpace r
        let indent := ((r.take count).reverse.takeWhile isSpace).length
        match readLines inFlow least lines (r.drop count) with
        | ([], _) => (line, c :: r)
        | (text, rest) =>
          if inFlow || least ≤ indent then (line ++ folded (keptBreak c) breaks ++ text, rest)
          else (line, c :: r)

/-- A plain scalar at the start of a text, without the spaces at its end, and what follows it. A
scalar ends before a colon with a gap behind it and before a comment, and in a flow collection
before its punctuation. -/
def readPlain (inFlow : Bool) (least : Nat) (t : Text) : Option (Text × Text) :=
  if startsPlain inFlow t then some (readLines inFlow least (t.length + 1) t) else none

/-- The most code points from the start of a key to its colon. -/
def keyLimit : Nat := 1024

/-- Whether what starts at `start` may be the key of the colon at `colon`: it is not too long, and
they are on one line. -/
def isSimpleKey (start colon : Text) : Bool :=
  let length := start.length - colon.length
  length ≤ keyLimit && (start.take length).all fun c => !isBreak c

end Yaml

end Stencil
