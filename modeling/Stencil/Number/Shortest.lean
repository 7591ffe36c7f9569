import Stencil.Number.Binary64

namespace Stencil

namespace Binary64

/-- A decimal number `digits · 10 ^ exponent`. -/
structure Shortest where
  digits : Nat
  exponent : Int
deriving DecidableEq

namespace Shortest

/-- Numerator and denominator of `b ^ k`. -/
def power (b : Nat) (k : Int) : Nat × Nat :=
  if k ≥ 0 then (b.pow k.toNat, 1) else (1, b.pow (-k).toNat)

/-- Whether `10 ^ k ≤ m · 2 ^ e`. -/
def tenPowerLe (k : Int) (m : Nat) (e : Int) : Bool :=
  let (tn, td) := power 10 k
  let (bn, bd) := power 2 e
  tn * bd ≤ m * bn * td

/-- The exponent of the greatest power of ten that is at most `m · 2 ^ e`. -/
def floorLog10 (m : Nat) (e : Int) : Int :=
  let k := Int.fdiv (((m.log2 : Int) + e) * 30103) 100000
  if tenPowerLe (k + 1) m e then k + 1 else if tenPowerLe k m e then k else k - 1

/-- The point of the grid of multiples of `10 ^ k` that reads back as `mantissa · 2 ^ e`, if there
is one. In quarters of a unit of the last place, the numbers that read back lie between `lo` and
`hi`, and the ends belong to them if the mantissa is even. Only the two neighbours of the value on
the grid have to be tried: if any point of the grid reads back, one of them does. -/
def onGrid? (mantissa : Nat) (e k : Int) : Option Nat :=
  let lo := if mantissa = Nat.pow 2 52 ∧ e > minExponent then 4 * mantissa - 1 else 4 * mantissa - 2
  let hi := 4 * mantissa + 2
  let (tn, td) := power 10 k
  let (bn, bd) := power 2 (e - 2)
  let s := tn * bd
  let t := bn * td
  let value := 4 * mantissa * t
  let a := value / s
  let readsBack (p : Nat) : Bool :=
    if mantissa % 2 = 0 then lo * t ≤ p * s && p * s ≤ hi * t else lo * t < p * s && p * s < hi * t
  let below := value - a * s
  let above := (a + 1) * s - value
  match readsBack a && a != 0, readsBack (a + 1) with
  | true, true =>
    if below < above then some a
    else if above < below then some (a + 1)
    else if a % 2 = 0 then some a else some (a + 1)
  | true, false => some a
  | false, true => some (a + 1)
  | false, false => none

/-- A number without factors of ten in its digits. -/
def stripZeros : (fuel : Nat) → Shortest → Shortest
  | 0, x => x
  | fuel + 1, x =>
    if x.digits ≠ 0 ∧ x.digits % 10 = 0 then stripZeros fuel ⟨x.digits / 10, x.exponent + 1⟩ else x

/-- Tries the grids of more and more digits. Of two texts of one length the nearer one is taken, and
of two equally near ones the one with the even last digit. -/
def search (mantissa : Nat) (e top : Int) : (left : Nat) → (count : Nat) → Shortest
  | 0, _ => ⟨mantissa, e⟩
  | left + 1, count =>
    let k := top + 1 - count
    match onGrid? mantissa e k with
    | some p => stripZeros 18 ⟨p, k⟩
    | none => search mantissa e top left (count + 1)

/-- The fewest digits that read back as the positive number `m · 2 ^ e`; seventeen suffice. -/
def ofParts (m : Nat) (e : Int) : Shortest := search m e (floorLog10 m e) 17 1

end Shortest

/-- How digits are laid out: `whole` follows a number without fractional digits, and a power of
ten is written outside the range from `10 ^ -4` to `10 ^ 16`. -/
def layOut (whole : Text) (x : Shortest) : Text :=
  let ds := Text.ofNat x.digits
  let point : Int := ds.length + x.exponent
  if -4 < point ∧ point ≤ 16 then
    if point ≤ 0 then Text.of "0." ++ Text.replicate (-point).toNat '0' ++ ds
    else if point.toNat < ds.length then
      ds.take point.toNat ++ Text.of "." ++ ds.drop point.toNat
    else ds ++ Text.replicate (point.toNat - ds.length) '0' ++ whole
  else
    let p := point - 1
    let pd := Text.ofNat p.natAbs
    let mark := if p < 0 then Text.of "e-" else Text.of "e+"
    let fraction := if ds.length > 1 then Text.of "." ++ ds.drop 1 else []
    ds.take 1 ++ fraction ++ mark ++ Text.replicate (2 - pd.length) '0' ++ pd

/-- The text of a number, with `whole` after one that has no fractional digits. -/
def toTextWith (whole : Text) : Binary64 → Text
  | nan => Text.of "nan"
  | infinite negative => if negative then Text.of "-inf" else Text.of "inf"
  | finite negative m e =>
    let sign := if negative then Text.of "-" else []
    if m = 0 then sign ++ Text.of "0" ++ whole
    else sign ++ layOut whole (Shortest.ofParts m e)

/-- The text of a number; a whole number ends in `.0`. -/
def toText (x : Binary64) : Text := toTextWith (Text.of ".0") x

end Binary64

end Stencil
