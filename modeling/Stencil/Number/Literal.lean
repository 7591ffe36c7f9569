import Stencil.Text.Blank
import Stencil.Text.DecimalDigit

namespace Stencil

/-- The number `± digits · 10 ^ exponent`. No digit is lost before a type rounds it. -/
structure Literal where
  negative : Bool
  digits : Nat
  exponent : Int
deriving DecidableEq

namespace Literal

/-- Whether a text starts with a minus sign, and what follows an optional sign. -/
def readSign : Text → Bool × Text
  | [] => (false, [])
  | c :: r => if c = '-' then (true, r) else if c = '+' then (false, r) else (false, c :: r)

/-- The leading digits and the rest. -/
def readDigits (t : Text) : Text × Text := t.span CodePoint.isDigit

def natOf (ds : Text) : Nat := ds.foldl (fun n c => n * 10 + (c.val - 0x30)) 0

/-- A power of ten after `e` or `E`; without digits there is none and nothing is read. -/
def readExponent (t : Text) : Int × Text :=
  match t with
  | c :: r =>
    if c.toLower = 'e' then
      let (negative, r) := readSign r
      let (ds, rest) := readDigits r
      if ds = [] then (0, t)
      else (if negative then -(natOf ds : Int) else natOf ds, rest)
    else (0, t)
  | [] => (0, t)

/-- The unsigned literal a text starts with. -/
def readUnsigned? (negative : Bool) (t : Text) : Option (Literal × Text) :=
  let (whole, r) := readDigits t
  let (part, r) := match r with
    | c :: r' => if c = '.' then readDigits r' else ([], r)
    | [] => ([], r)
  if whole = [] ∧ part = [] then none
  else
    let (e, rest) := readExponent r
    some (⟨negative, natOf (whole ++ part), e - part.length⟩, rest)

/-- The literal a text starts with, and the rest. -/
def readPrefix? (t : Text) : Option (Literal × Text) :=
  let (negative, r) := readSign t
  readUnsigned? negative r

/-- A text that is one literal and nothing more. -/
def read? (t : Text) : Option Literal :=
  match readPrefix? t with
  | some (l, []) => some l
  | _ => none

end Literal

namespace Text

/-- A numeral with ASCII digits and lower-case letters, without the white space around it. -/
def plainNumeral (t : Text) : Text := t.asciiDigits.trimWhite.map CodePoint.toLower

/-- What follows a code point, a digit or not, without underscores, if each of these stands between
two digits. -/
def ungroupAfter? : (digit : Bool) → Text → Option Text
  | _, [] => some []
  | digit, c :: r =>
    if c.is '_' then
      if digit && r.head?.any CodePoint.isDigit then ungroupAfter? false r else none
    else (ungroupAfter? c.isDigit r).map (c :: ·)

/-- A numeral without the underscores that group its digits. -/
def ungroup? (t : Text) : Option Text := ungroupAfter? false t

end Text

end Stencil
