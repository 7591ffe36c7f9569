import Stencil.Yaml.Flow

namespace Stencil

namespace Yaml

/-- A line without its leading spaces, and the break before it. The indent of a line says which
collection it belongs to, and the start of its text whether it is an item, an entry, or a node. -/
structure Line where
  mark : CodePoint
  indent : Nat
  text : Text

namespace Line

def ofText (mark : CodePoint) (t : Text) : Line :=
  let body := t.dropWhile isSpace
  ⟨mark, t.length - body.length, body⟩

/-- The line as it is written, after its break. -/
def source (l : Line) : Text := l.mark :: Text.replicate l.indent ' ' ++ l.text

/-- Whether a text is a comment or holds nothing but spaces. -/
def isIdle (t : Text) : Bool := (t.dropWhile isSpace).head?.all fun c => c.is '#'

/-- Whether the line starts an item of a list. -/
def isItem (l : Line) : Bool :=
  match l.text with
  | [] => false
  | c :: r => c.is '-' && atGap r

/-- What stands behind the hyphen of an item, with its own indent. -/
def itemBody (l : Line) : Line :=
  let body := ofText l.mark l.text.tail
  { body with indent := l.indent + 1 + body.indent }

/-- The key that the line starts with, and what follows its colon. -/
def key? (l : Line) : Option (Node × Text) := do
  let (key, rest) ← readScalar false 0 l.text
  match rest.dropWhile isSpace with
  | c :: r => if c.is ':' && atGap r && isSimpleKey l.text (c :: r) then some (key, r) else none
  | [] => none

/-- Whether a line is a marker of the start or the end of a document. -/
def isMarker (marker : String) (l : Line) : Bool :=
  l.indent = 0 && (Text.of marker).isPrefixOf l.text && atGap (l.text.drop 3)

end Line

/-- The lines from the first that holds something on. -/
def skipIdle (ls : List Line) : List Line := ls.dropWhile fun l => Line.isIdle l.text

/-- The lines below a plain scalar that may belong to it. -/
def nearLines (least : Nat) (below : List Line) : List Line :=
  below.takeWhile fun l => least ≤ l.indent || l.text = []

/-- A node that starts on a line, and the lines after it. Further lines of a plain scalar have some
indent at least. -/
def inlineNode (least : Nat) (t : Text) (below : List Line) : Option (Node × List Line) := do
  let isFlow := t.head?.any fun c => c.is '[' || c.is '\x7b'
  let near := if isFlow || t.head?.any isQuote then below else nearLines least below
  let whole := t ++ near.flatMap Line.source
  let (node, rest) ← if isFlow then readFlow whole else readScalar false least whole
  let left := (rest.filter isBreak).length
  if Line.isIdle (rest.takeWhile fun c => !isBreak c) then
    some (node, below.drop (near.length - left))
  else none

mutual

/-- The node that the first line of at least some indent starts; null if there is none. -/
def blockNode : (steps : Nat) → (least : Nat) → List Line → Option (Node × List Line)
  | 0, _, _ => none
  | n + 1, least, ls =>
    match skipIdle ls with
    | [] => some (.null, [])
    | l :: ls =>
      if l.indent < least then some (.null, l :: ls)
      else if l.isItem then blockItems n l.indent [] (l :: ls)
      else if l.key?.isSome then blockEntries n l.indent [] (l :: ls)
      else inlineNode least l.text ls

/-- The rest of a list whose items have an indent; some are read in reverse. -/
def blockItems : (steps : Nat) → (indent : Nat) → List Node → List Line →
    Option (Node × List Line)
  | 0, _, _, _ => none
  | n + 1, indent, done, ls =>
    match skipIdle ls with
    | [] => some (.list done.reverse, [])
    | l :: ls =>
      if l.indent = indent && l.isItem then do
        let (node, rest) ← blockNode n (indent + 1) (l.itemBody :: ls)
        blockItems n indent (node :: done) rest
      else some (.list done.reverse, l :: ls)

/-- The rest of a mapping whose entries have an indent; some are read in reverse. -/
def blockEntries : (steps : Nat) → (indent : Nat) → List (Node × Node) → List Line →
    Option (Node × List Line)
  | 0, _, _, _ => none
  | n + 1, indent, done, ls =>
    match skipIdle ls with
    | [] => some (.mapping done.reverse, [])
    | l :: ls =>
      if l.indent = indent && !l.isItem then do
        let (key, rest) ← l.key?
        let (node, below) ← blockValue n indent rest ls
        blockEntries n indent ((key, node) :: done) below
      else some (.mapping done.reverse, l :: ls)

/-- The value of an entry: on its line, or in deeper lines, or a list at its own indent. -/
def blockValue : (steps : Nat) → (indent : Nat) → Text → List Line → Option (Node × List Line)
  | 0, _, _, _ => none
  | n + 1, indent, t, ls =>
    if !Line.isIdle t then inlineNode (indent + 1) (t.dropWhile isSpace) ls
    else match skipIdle ls with
      | [] => some (.null, [])
      | l :: below =>
        if indent < l.indent then blockNode n (indent + 1) (l :: below)
        else if l.indent = indent && l.isItem then blockItems n indent [] (l :: below)
        else some (.null, l :: below)

end

/-- The code points that a document may hold. -/
def isAllowed (c : CodePoint) : Bool :=
  let n := c.val
  n == 0x9 || n == 0xA || n == 0xD || (0x20 ≤ n && n ≤ 0x7E) || n == 0x85 ||
    (0xA0 ≤ n && n ≤ 0xD7FF) || (0xE000 ≤ n && n ≤ 0xFFFD) || 0x10000 ≤ n

/-- The text without a byte order mark at its start. -/
def withoutMark : Text → Text
  | [] => []
  | c :: r => if c.val = 0xFEFF then r else c :: r

/-- The lines of a text; the first one follows the break `mark`. -/
def linesAfter (mark : CodePoint) : Text → List (CodePoint × Text)
  | [] => [(mark, [])]
  | c :: r =>
    if isBreak c then (mark, []) :: linesAfter c r
    else match linesAfter mark r with
      | [] => [(mark, [c])]
      | (m, t) :: ls => (m, c :: t) :: ls

def linesOf (t : Text) : List Line :=
  (linesAfter '\n' (withoutMark t)).map fun l => Line.ofText l.1 l.2

/-- The node of some lines, and the lines after it; nothing but idle lines is null. A marker of the
start of a document may stand first, and on its line an inline node. -/
def rootNode (steps : Nat) (ls : List Line) : Option (Node × List Line) :=
  match skipIdle ls with
  | [] => some (.null, [])
  | l :: below =>
    if l.isMarker "..." then none
    else if !l.isMarker "---" then blockNode steps 0 (l :: below)
    else if Line.isIdle (l.text.drop 3) then blockNode steps 0 below
    else inlineNode 0 ((l.text.drop 3).dropWhile isSpace) below

/-- Whether a line ends a document, and holds nothing else. -/
def isLastLine (l : Line) : Bool := l.isMarker "..." && Line.isIdle (l.text.drop 3)

/-- The node of a document, of which there is only one. Nothing but markers of its end may
follow. -/
def document? (t : Text) : Option Node :=
  let isEnd (l : Line) : Bool := l.isMarker "---" || l.isMarker "..."
  let lines := skipIdle (linesOf t)
  let lead := lines.take 1
  let body := lines.tail.takeWhile fun l => !isEnd l
  let after := lines.drop (lead.length + body.length)
  if t.all isAllowed && after.all fun l => Line.isIdle l.text || isLastLine l then
    match rootNode (2 * t.length + 4) (lead ++ body) with
    | some (node, rest) => if (skipIdle rest).isEmpty then some node else none
    | none => none
  else none

/-- The text has no form. -/
def malformed : ReadError := ⟨.malformed, Text.of "malformed document"⟩

/-- A whole number has too many digits. -/
def tooManyDigits (count : Nat) : ReadError := ⟨.value, Number.digitMessage (some count)⟩

/-- The data of a document. Its numbers are looked at only if it can be read. -/
def read (t : Text) : Except ReadError Data :=
  match document? t with
  | none => .error malformed
  | some node =>
    match node.data?, node.longCount? with
    | none, _ => .error malformed
    | some _, some count => .error (tooManyDigits count)
    | some d, none => .ok d

end Yaml

end Stencil
