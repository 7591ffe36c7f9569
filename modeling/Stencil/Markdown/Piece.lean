import Stencil.Text.Blank
import Stencil.Text.Quoted

namespace Stencil

namespace Markdown

/-- While inline marks are read, a text is a run of pieces: characters that may still be marks,
characters that are none, and finished HTML. -/
inductive Piece where
  /-- A character that may be a mark. -/
  | char (c : CodePoint)
  /-- A character that has lost its meaning as a mark. -/
  | literal (c : CodePoint)
  | html (t : Text)
deriving DecidableEq

namespace Piece

/-- The entities of the three characters that running text reserves. Quotes stay. -/
def escapeChar (c : CodePoint) : Text :=
  if c = '&' then Text.of "&amp;" else if c = '<' then Text.of "&lt;"
  else if c = '>' then Text.of "&gt;" else [c]

/-- The piece inside code, where every character stands for itself. -/
def toCode : Piece → Text
  | char c => escapeChar c
  | literal c => escapeChar c
  | html t => t

/-- The text that a piece came from, as far as it is known. -/
def source : Piece → Text
  | char c => [c]
  | literal c => [c]
  | html t => t

def isChar (p : Piece) (d : Char) : Bool := p == char d

def isBlank : Piece → Bool
  | char c => c.isBlank
  | _ => false

def all (p : CodePoint → Bool) : Piece → Bool
  | char c => p c
  | _ => false

def isHtml : Piece → Bool
  | html _ => true
  | _ => false

end Piece

/-- A rule sees the piece before and the pieces from a place on, and may give new pieces for a
number of them. -/
abbrev Rule := Option Piece → List Piece → Option (List Piece × Nat)

/-- One pass of a rule, after `skip` pieces that are already replaced. It goes from left to right
and does not look at its own results. -/
def pass (rule : Rule) : (before : Option Piece) → (skip : Nat) → List Piece → List Piece
  | _, _, [] => []
  | before, skip + 1, _ :: r => pass rule before skip r
  | before, 0, p :: r =>
    match rule before (p :: r) with
    | some (new, n) => new ++ pass rule (new.getLast?.or (some p)) (n - 1) r
    | none => p :: pass rule (some p) 0 r

/-- A rule over a whole run of pieces. -/
def Rule.apply (rule : Rule) (ps : List Piece) : List Piece := pass rule none 0 ps

/-- Replaces at the first place where a rule gives something. -/
def Rule.first? (rule : Rule) : (before : Option Piece) → List Piece → Option (List Piece)
  | _, [] => none
  | before, p :: r =>
    match rule before (p :: r) with
    | some (new, n) => some (new ++ (p :: r).drop n)
    | none => (first? rule (some p) r).map (p :: ·)

/-- Replaces at the first place again and again, at most as often as there are tries. -/
def Rule.exhaust (rule : Rule) : (tries : Nat) → List Piece → List Piece
  | 0, ps => ps
  | n + 1, ps =>
    match rule.first? none ps with
    | some qs => exhaust rule n qs
    | none => ps

/-- The pieces of a text in which nothing is read yet. -/
def pieces (t : Text) : List Piece := t.map .char

/-- Whether a text is what stands between `&` and `;` in an entity. -/
def isEntityName (t : Text) : Bool :=
  match t with
  | [] => false
  | c :: r =>
    if c = '#' then
      match r with
      | [] => false
      | d :: ds =>
        if d = 'x' then ds ≠ [] && ds.all fun x => x.hexValue?.isSome
        else (d :: ds).all CodePoint.isDigit
    else (c :: r).all fun x => x.isLetter || x.isDigit

/-- Whether the pieces behind `&` make it an entity as they stand, in capitals or not. -/
def closesEntity (ps : List Piece) : Bool :=
  let name := (ps.takeWhile fun p => !p.isHtml && !p.isChar ';').flatMap Piece.source
  isEntityName (name.map CodePoint.toLower) && (ps.drop name.length).head?.any fun p => p.isChar ';'

/-- The HTML of pieces. An entity that no rule has read is kept as well. -/
def toHtml : List Piece → Text
  | [] => []
  | .html t :: r => t ++ toHtml r
  | .char c :: r => (if c = '&' ∧ closesEntity r then [c] else Piece.escapeChar c) ++ toHtml r
  | .literal c :: r => Piece.escapeChar c ++ toHtml r

end Markdown

end Stencil
