import Stencil.Number.Literal

namespace Stencil

/-- A decimal number keeps its written exponent, so `2.50` and `2.5` differ in text. -/
inductive Decimal where
  | finite (negative : Bool) (coefficient : Nat) (exponent : Int)
  | infinite (negative : Bool)
  /-- No number; a signalling one refuses to be compared. A zero payload is not written. -/
  | nan (negative signalling : Bool) (payload : Nat)
deriving DecidableEq

namespace Decimal

/-- What a text after its sign names, if it is not a literal. -/
def special? (negative : Bool) (t : Text) : Option Decimal :=
  let payload? (r : Text) (signalling : Bool) : Option Decimal :=
    if r.all CodePoint.isDigit then some (nan negative signalling (Literal.natOf r)) else none
  if t = Text.of "inf" ∨ t = Text.of "infinity" then some (infinite negative)
  else if (Text.of "nan").isPrefixOf t then payload? (t.drop 3) false
  else if (Text.of "snan").isPrefixOf t then payload? (t.drop 4) true
  else none

/-- The greatest exponent of a leading digit. -/
def maxExponent : Int := 999999999999999999

/-- The least exponent of a last digit. -/
def minExponent : Int := -1999999999999999997

/-- Whether the digits of a literal stand for powers of ten within the limits. A zero has one. -/
def isInRange (l : Literal) : Bool :=
  minExponent ≤ l.exponent && l.exponent + (Text.ofNat l.digits).length - 1 ≤ maxExponent

/-- A written decimal number, perhaps with blanks around it and underscores anywhere. -/
def read? (t : Text) : Option Decimal :=
  let t := (t.asciiDigits.trim.filter fun c => !c.is '_').map CodePoint.toLower
  let (negative, r) := Literal.readSign t
  match special? negative r with
  | some d => some d
  | none =>
    ((Literal.read? t).filter isInRange).map fun l => finite l.negative l.digits l.exponent

/-- Positional unless the exponent is positive or more than six zeros would follow the point. -/
def toText : Decimal → Text
  | infinite negative => if negative then Text.of "-Infinity" else Text.of "Infinity"
  | nan negative signalling payload =>
    (if negative then Text.of "-" else []) ++
      (if signalling then Text.of "sNaN" else Text.of "NaN") ++
      (if payload = 0 then [] else Text.ofNat payload)
  | finite negative coefficient exponent =>
    let ds := Text.ofNat coefficient
    let left : Int := ds.length + exponent
    let point : Int := if exponent ≤ 0 ∧ left > -6 then left else 1
    let digits :=
      if point ≤ 0 then Text.of "0." ++ Text.replicate (-point).toNat '0' ++ ds
      else if point.toNat < ds.length then
        ds.take point.toNat ++ Text.of "." ++ ds.drop point.toNat
      else ds ++ Text.replicate (point.toNat - ds.length) '0'
    let power := left - point
    let mark :=
      if power = 0 then []
      else Text.of "E" ++ (if power > 0 then Text.of "+" else []) ++ Text.ofInt power
    (if negative then Text.of "-" else []) ++ digits ++ mark

/-- Whether the number differs from zero; a signalling one does not say. -/
def nonzero? : Decimal → Option Bool
  | finite _ coefficient _ => some (coefficient != 0)
  | infinite _ => some true
  | nan _ signalling _ => if signalling then none else some true

end Decimal

end Stencil
