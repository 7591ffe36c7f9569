import Stencil.Number.Shortest

namespace Stencil

/-- How a number with a given count of digits is laid out. -/
inductive PlaceStyle where
  /-- Digits after the point are counted. -/
  | fixed
  /-- One digit before the point and a power of ten. -/
  | scientific
  /-- All digits are counted; a power of ten is written for small and for large numbers. -/
  | general
deriving DecidableEq

namespace Binary64

/-- The product `m · 2 ^ e · 10 ^ k`, rounded to a whole number, a half to the even one. -/
def scaled (m : Nat) (e k : Int) : Nat :=
  let (tn, td) := Shortest.power 10 k
  let (bn, bd) := Shortest.power 2 e
  roundHalfEven (m * bn * tn) (bd * td)

/-- A point and digits after it. A point without digits is written only if it is asked for. -/
def afterPoint (keepPoint : Bool) (digits : Text) : Text :=
  if digits = [] ∧ !keepPoint then [] else CodePoint.ofChar '.' :: digits

/-- Digits without zeros at the end. -/
def withoutZeros (digits : Text) : Text :=
  (digits.reverse.dropWhile fun c => c.is '0').reverse

/-- The digits of `n`, of which the last `places` stand after the point. -/
def placed (n places : Nat) : Text × Text :=
  let ds := Text.ofNat n
  let ds := Text.replicate (places + 1 - ds.length) '0' ++ ds
  (ds.take (ds.length - places), ds.drop (ds.length - places))

/-- The `count` leading digits of `m · 2 ^ e`, rounded, and the exponent of the first of them. -/
def leading (count m : Nat) (e : Int) : Nat × Int :=
  if m = 0 then (0, 0)
  else
    let top := Shortest.floorLog10 m e
    let n := scaled m e (count - 1 - top)
    if n = Nat.pow 10 count then (n / 10, top + 1) else (n, top)

/-- A power of ten with a sign and at least two digits. -/
def powerText (k : Int) : Text :=
  let ds := Text.ofNat k.natAbs
  Text.of (if k < 0 then "e-" else "e+") ++ Text.replicate (2 - ds.length) '0' ++ ds

/-- No binary number has more digits than this, so those behind them are zeros. -/
def mostDigits : Nat := 1100

/-- The text of a number without its sign. -/
def unsignedPlaces (style : PlaceStyle) (keepPoint : Bool) (count m : Nat) (e : Int) : Text :=
  let count := if style = .general then max count 1 else count
  let kept := min count mostDigits
  let pad (part : Text) : Text := part ++ Text.replicate (count - kept) '0'
  match style with
  | .fixed =>
    let (whole, part) := placed (scaled m e kept) kept
    whole ++ afterPoint keepPoint (pad part)
  | .scientific =>
    let (n, k) := leading (kept + 1) m e
    let (whole, part) := placed n kept
    whole ++ afterPoint keepPoint (pad part) ++ powerText k
  | .general =>
    let (n, k) := leading kept m e
    let trim (part : Text) : Text := if keepPoint then pad part else withoutZeros part
    if -4 ≤ k ∧ k < count then
      let (whole, part) := placed n (kept - 1 - k).toNat
      whole ++ afterPoint keepPoint (trim part)
    else
      let (whole, part) := placed n (kept - 1)
      whole ++ afterPoint keepPoint (trim part) ++ powerText k

/-- The text of a number with a count of digits. A point at the end is left out unless it is
kept. -/
def toPlaces (style : PlaceStyle) (keepPoint : Bool) (count : Nat) : Binary64 → Text
  | nan => Text.of "nan"
  | infinite negative => Text.of (if negative then "-inf" else "inf")
  | finite negative m e =>
    Text.of (if negative then "-" else "") ++ unsignedPlaces style keepPoint count m e

/-- The whole number that a number is, if it is one. -/
def toInt? : Binary64 → Option Int
  | finite negative m e =>
    let (n, d) := Shortest.power 2 e
    if m * n % d = 0 then some (if negative then -((m * n / d : Nat) : Int) else (m * n / d : Nat))
    else none
  | _ => none

/-- The number nearest to a whole number, unless that is out of range. -/
def ofInt? (n : Int) : Option Binary64 :=
  match ofRatio (n < 0) n.natAbs 1 with
  | infinite _ => none
  | x => some x

end Binary64

end Stencil
