import Stencil.Markdown.Piece

namespace Stencil

namespace Markdown

/-- How many pieces at the start are this character. -/
def countChar (d : Char) (ps : List Piece) : Nat := (ps.takeWhile fun p => p.isChar d).length

/-- How far a closing run of exactly `ticks` backticks is, behind at least one other piece. -/
def closingAt (ticks : Nat) : (last : Option Piece) → (taken : Nat) → List Piece → Option Nat
  | _, _, [] => none
  | last, taken, p :: r =>
    if 0 < taken && !(last.any fun q => q.isChar '\x60') && countChar '\x60' (p :: r) == ticks then
      some taken
    else closingAt ticks (some p) (taken + 1) r

/-- Pieces without their outer blanks. -/
def trimBlanks (ps : List Piece) : List Piece :=
  ((ps.dropWhile Piece.isBlank).reverse.dropWhile Piece.isBlank).reverse

/-- A code span opened by `ticks` backticks, or by fewer of them if no such run closes it. -/
def codeOf : (ticks : Nat) → List Piece → Option (List Piece × Nat)
  | 0, _ => none
  | k + 1, ps =>
    let inner := ps.drop (k + 1)
    match closingAt (k + 1) none 0 inner with
    | some n =>
      let content := (trimBlanks (inner.take n)).flatMap Piece.toCode
      some ([.html (Text.of "<code>" ++ content ++ Text.of "</code>")], (k + 1) + n + (k + 1))
    | none => codeOf k ps

/-- Code spans, and pairs of backslashes before one. -/
def codeRule : Rule := fun before ps =>
  if before.any fun p => p == .char Text.backslash then none
  else
    let slashes := (ps.takeWhile fun p => p == .char Text.backslash).length
    if 0 < slashes then
      if slashes % 2 == 0 && (ps.drop slashes).head?.any fun p => p.isChar '\x60' then
        some (List.replicate (slashes / 2) (.literal Text.backslash), slashes)
      else none
    else codeOf (countChar '\x60' ps) ps

/-- The characters that a backslash takes the meaning from. -/
def escapable : List Char :=
  ['\\', '\x60', '*', '_', '\x7b', '\x7d', '[', ']', '(', ')', '>', '#', '+', '-', '.', '!']

/-- A backslash and the character after it. -/
def escapeRule (bars : Bool) : Rule := fun _ ps =>
  match ps with
  | .char b :: .char c :: _ =>
    if b ≠ Text.backslash then none
    else if escapable.any (fun d => CodePoint.ofChar d == c) || (bars && c.is '|') then
      some ([.literal c], 2)
    else some ([.char b, .char c], 2)
  | _ => none

/-- Two blanks at the end of a line force a break. -/
def breakRule : Rule := fun _ ps =>
  match ps with
  | .char a :: .char b :: .char c :: _ =>
    if a = ' ' ∧ b = ' ' ∧ c = '\n' then
      some ([.html (Text.of "<br />" ++ [CodePoint.ofChar '\n'])], 3)
    else none
  | _ => none

/-- An opening or closing tag is kept as it is. -/
def tagRule : Rule := fun _ ps =>
  match ps with
  | [] => none
  | p :: r =>
    if !p.isChar '<' then none
    else
      let name := if r.head?.any fun q => q.isChar '/' then r.tail else r
      let body := name.takeWhile fun q => !q.isChar '<' && !q.isChar '>'
      let word := body.takeWhile fun q => !q.isChar ' '
      if (body.head?.any (Piece.all CodePoint.isLetter)) && !(word.any fun q => q.isChar '@') &&
          (name.drop body.length).head?.any fun q => q.isChar '>' then
        let n := 1 + (r.length - name.length) + body.length + 1
        some ([.html ((ps.take n).flatMap Piece.source)], n)
      else none

/-- An entity is kept as it is. -/
def entityRule : Rule := fun _ ps =>
  match ps with
  | [] => none
  | p :: r =>
    if !p.isChar '&' then none
    else
      let name := r.takeWhile fun q => q.all fun c => !c.is ';'
      let ends := (r.drop name.length).head?.any fun q => q.isChar ';'
      if isEntityName (name.flatMap Piece.source) && ends then
        some ([.html ((ps.take (name.length + 2)).flatMap Piece.source)], name.length + 2)
      else none

/-- One to three stars between blanks, or at an end of the text, are literal. -/
def loneStarRule : Rule := fun before ps =>
  let n := countChar '*' ps
  if 0 < n && n ≤ 3 && before.all Piece.isBlank && (ps.drop n).head?.all Piece.isBlank then
    some (List.replicate n (.literal '*'), n)
  else none

/-- A text with everything but emphasis read. With `bars`, a backslash also escapes a bar. A code
span or a tag that is read can complete an earlier one, so these rules are exhausted. What one rule
reads holds no marks for later ones. -/
def readMarks (bars : Bool) (t : Text) : List Piece :=
  let ps := pieces t
  let ps := breakRule.apply ((escapeRule bars).apply (Rule.exhaust codeRule ps.length ps))
  loneStarRule.apply (entityRule.apply (Rule.exhaust tagRule ps.length ps))

end Markdown

end Stencil
