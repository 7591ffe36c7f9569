import Stencil.Number.Literal

namespace Stencil

/-- A finite number is a sign, a mantissa below `2 ^ 53` and an exponent, and stands for `± mantissa
· 2 ^ exponent`. Zero keeps its sign. -/
inductive Binary64 where
  | nan
  | infinite (negative : Bool)
  | finite (negative : Bool) (mantissa : Nat) (exponent : Int)
deriving DecidableEq

/-- The quotient rounded to the nearest whole number, a half to the even one. -/
def roundHalfEven (n d : Nat) : Nat :=
  let q := n / d
  let r := n % d
  if 2 * r > d ∨ (2 * r = d ∧ q % 2 = 1) then q + 1 else q

namespace Binary64

/-- The least exponent of a finite number. -/
def minExponent : Int := -1074

/-- The greatest exponent of a finite number. -/
def maxExponent : Int := 971

/-- The exponent of the greatest power of two that is at most `n / d`. -/
def floorLog2 (n d : Nat) : Int :=
  let k : Int := (n.log2 : Int) - d.log2
  let fits := if k ≥ 0 then d * Nat.pow 2 k.toNat ≤ n else d ≤ n * Nat.pow 2 (-k).toNat
  if fits then k else k - 1

/-- The number nearest to a ratio; too great a ratio is infinite. A half goes to the even
mantissa. -/
def ofRatio (negative : Bool) (n d : Nat) : Binary64 :=
  if n = 0 then finite negative 0 minExponent
  else
    let e := max (floorLog2 n d - 52) minExponent
    let m := if e ≥ 0 then roundHalfEven n (d * Nat.pow 2 e.toNat)
      else roundHalfEven (n * Nat.pow 2 (-e).toNat) d
    let (m, e) := if m = Nat.pow 2 53 then (Nat.pow 2 52, e + 1) else (m, e)
    if e > maxExponent then infinite negative else finite negative m e

/-- The number nearest to a literal. A literal far outside the range is settled by its size. -/
def ofLiteral (l : Literal) : Binary64 :=
  let top : Int := (Nat.toDigits 10 l.digits).length + l.exponent
  if l.digits = 0 then finite l.negative 0 minExponent
  else if top > 400 then infinite l.negative
  else if top < -400 then finite l.negative 0 minExponent
  else if l.exponent ≥ 0 then ofRatio l.negative (l.digits * Nat.pow 10 l.exponent.toNat) 1
  else ofRatio l.negative l.digits (Nat.pow 10 (-l.exponent).toNat)

/-- The number a text starts with, infinity and not-a-number included. -/
def readPrefix? (t : Text) : Option (Binary64 × Text) :=
  let (negative, r) := Literal.readSign t
  if (Text.of "infinity").isPrefixOf r then some (infinite negative, r.drop 8)
  else if (Text.of "inf").isPrefixOf r then some (infinite negative, r.drop 3)
  else if (Text.of "nan").isPrefixOf r then some (nan, r.drop 3)
  else (Literal.readUnsigned? negative r).map fun p => (ofLiteral p.1, p.2)

/-- A written number, perhaps with white space around it and underscores between its digits. -/
def read? (t : Text) : Option Binary64 :=
  match t.plainNumeral.ungroup?.bind readPrefix? with
  | some (x, []) => some x
  | _ => none

/-- Both zeros are zero; not-a-number is not. -/
def isZero : Binary64 → Bool
  | finite _ m _ => m == 0
  | _ => false

end Binary64

end Stencil
