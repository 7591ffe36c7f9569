import Stencil.Text.Quoted

namespace Stencil

namespace Markdown

/-- A part of a row. -/
inductive RowToken where
  | text (t : Text)
  /-- A run of backticks, perhaps behind a backslash. -/
  | ticks (escaped : Bool) (count : Nat)
  | bar
deriving DecidableEq

namespace RowToken

/-- The text of a part of a row. -/
def source : RowToken → Text
  | text t => t
  | ticks escaped count =>
    (if escaped then [Text.backslash] else []) ++ Text.replicate count '\x60'
  | bar => [CodePoint.ofChar '|']

/-- Whether this is a run of that many backticks. -/
def isTicks (n : Nat) : RowToken → Bool
  | ticks _ count => count == n
  | _ => false

/-- How many backticks at the start of a text there are. -/
def runLength (t : Text) : Nat := (t.takeWhile fun c => c.is '\x60').length

/-- The parts of a row, after `skip` characters that are settled. A backslash takes the meaning from
a bar, and a bar inside code has none: code reaches from a run of backticks to the next run of the
same length. A backslash before the opening run counts for one backtick less. -/
def ofRow : (skip : Nat) → Text → List RowToken
  | _, [] => []
  | skip + 1, _ :: r => ofRow skip r
  | 0, c :: r =>
    if c = '|' then bar :: ofRow 0 r
    else if c = '\x60' then ticks false (runLength r + 1) :: ofRow (runLength r) r
    else if c = Text.backslash then
      match r.head? with
      | some d =>
        if d = Text.backslash ∨ d = '|' then text [c, d] :: ofRow 1 r
        else if d = '\x60' then ticks true (runLength r) :: ofRow (runLength r) r
        else text [c] :: ofRow 0 r
      | none => [text [c]]
    else text [c] :: ofRow 0 r

/-- Puts a text before the first cell. -/
def prepend (t : Text) : List Text → List Text
  | [] => [t]
  | cell :: cells => (t ++ cell) :: cells

/-- The cells of a row, of which the first `inside` parts belong to code. -/
def cells : (inside : Nat) → List RowToken → List Text
  | _, [] => [[]]
  | inside + 1, p :: r => prepend p.source (cells inside r)
  | 0, p :: r =>
    match p with
    | text t => prepend t (cells 0 r)
    | bar => [] :: cells 0 r
    | ticks escaped count =>
      let size := if escaped then count - 1 else count
      match if size = 0 then none else r.findIdx? (isTicks size) with
      | some k => prepend p.source (cells (k + 1) r)
      | none => prepend p.source (cells 0 r)

end RowToken

/-- The texts between the bars that have a meaning. -/
def splitRow (row : Text) : List Text := RowToken.cells 0 (RowToken.ofRow 0 row)

/-- Whether a row ends with a bar that no backslash escapes. -/
def endsWithBar (row : Text) : Bool :=
  match row.reverse with
  | [] => false
  | c :: r => c.is '|' && (r.takeWhile fun d => d == Text.backslash).length % 2 == 0

def startsWithBar (row : Text) : Bool := row.head?.any fun c => c.is '|'

/-- Whether a row has a bar at one of its ends. -/
def isBordered (row : Text) : Bool := startsWithBar row || endsWithBar row

/-- A row without the bar at its end and the backslashes before it. -/
def withoutEndBar (row : Text) : Text :=
  (row.reverse.tail.dropWhile fun c => c == Text.backslash).reverse

/-- The cells of a row; in a bordered table the bars at the ends bound them. -/
def cellsOf (bordered : Bool) (row : Text) : List Text :=
  let inner := if bordered && startsWithBar row then row.tail else row
  splitRow (if bordered && endsWithBar inner then withoutEndBar inner else inner)

end Markdown

end Stencil
