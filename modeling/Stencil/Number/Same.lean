import Stencil.Number.Basic

namespace Stencil

/-- The value `± numerator / denominator · 2 ^ twos · 5 ^ fives`. So a great power of ten is never
written out. -/
structure Factored where
  negative : Bool
  numerator : Nat
  denominator : Nat
  twos : Int
  fives : Int
deriving DecidableEq

namespace Factored

/-- Takes a factor out of a number as often as it goes, and says how often that is. -/
def takeOut (factor : Nat) : (steps : Nat) → Nat → Nat × Nat
  | 0, n => (n, 0)
  | steps + 1, n =>
    if n % factor = 0 then
      let p := takeOut factor steps (n / factor)
      (p.1, p.2 + 1)
    else (n, 0)

/-- The one form of a ratio in lowest terms, times powers of two and five. -/
def ofRatio (negative : Bool) (numerator denominator : Nat) (twos fives : Int) : Factored :=
  if numerator = 0 then ⟨false, 0, 1, 0, 0⟩
  else
    let steps (n : Nat) : Nat := n.log2 + 1
    let (n, two) := takeOut 2 (steps numerator) numerator
    let (n, five) := takeOut 5 (steps n) n
    let (d, two') := takeOut 2 (steps denominator) denominator
    let (d, five') := takeOut 5 (steps d) d
    ⟨negative, n, d, twos + two - two', fives + five - five'⟩

end Factored

/-- A value that a number stands for. -/
inductive Magnitude where
  | infinite (negative : Bool)
  | finite (value : Factored)
deriving DecidableEq

namespace Magnitude

def zero : Magnitude := finite (Factored.ofRatio false 0 1 0 0)

def ofBinary64? : Binary64 → Option Magnitude
  | .nan => none
  | .infinite negative => some (infinite negative)
  | .finite negative m e => some (finite (Factored.ofRatio negative m 1 e 0))

def ofDecimal? : Decimal → Option Magnitude
  | .nan _ _ _ => none
  | .infinite negative => some (infinite negative)
  | .finite negative c e => some (finite (Factored.ofRatio negative c 1 e e))

end Magnitude

namespace Number

/-- The real and the imaginary part of the value that a number stands for. -/
def value? : Number → Option (Magnitude × Magnitude)
  | int n => some (.finite (Factored.ofRatio (n < 0) n.natAbs 1 0 0), .zero)
  | float x => (Magnitude.ofBinary64? x).map fun m => (m, .zero)
  | decimal d => (Magnitude.ofDecimal? d).map fun m => (m, .zero)
  | fraction q =>
    some (.finite (Factored.ofRatio (q.numerator < 0) q.numerator.natAbs q.denominator 0 0), .zero)
  | complex z => do
    let x ← Magnitude.ofBinary64? z.real
    let y ← Magnitude.ofBinary64? z.imaginary
    return (x, y)

/-- Whether two numbers stand for the same value. Numbers of different kinds may, as `2`, `2.0` and
`4/2` do. What is no number is not the same as anything. -/
def isSame (a b : Number) : Bool :=
  match a.value?, b.value? with
  | some x, some y => x == y
  | _, _ => false

end Number

end Stencil
