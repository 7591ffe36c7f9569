import Stencil.Number.Decimal
import Stencil.Number.Fraction
import Stencil.Number.Complex

namespace Stencil

/-- The numbers a template can show. Each kind has one text, which holds no character that HTML
reserves. -/
inductive Number where
  | int (n : Int)
  | float (x : Binary64)
  | decimal (d : Decimal)
  | fraction (q : Fraction)
  | complex (z : Complex)
deriving DecidableEq

namespace Number

/-- The most digits that a whole number is written with. -/
def digitLimit : Nat := 4300

/-- The least number that has too many digits. -/
def tooGreat : Nat := Nat.pow 10 digitLimit

/-- What is said about a whole number with too many digits: one that is written, or one that is
read, with the count of its digits. -/
def digitMessage (count : Option Nat) : Text :=
  Text.of "Exceeds the limit (4300 digits) for integer string conversion" ++
    (match count with
    | some n => Text.of ": value has " ++ Text.ofNat n ++ Text.of " digits"
    | none => []) ++
    Text.of "; use sys.set_int_max_str_digits() to increase the limit"

/-- Whether a whole number has no more digits than the limit. -/
def isWritable (n : Int) : Bool := n.natAbs < tooGreat

/-- Whether the whole numbers that the text is made of can be written. -/
def hasText : Number → Bool
  | int n => isWritable n
  | fraction q => isWritable q.numerator && isWritable q.denominator
  | _ => true

def toText : Number → Text
  | int n => Text.ofInt n
  | float x => x.toText
  | decimal d => d.toText
  | fraction q => q.toText
  | complex z => z.toText

/-- The text, if no whole number in it is too long. -/
def text? (n : Number) : Option Text := if n.hasText then some n.toText else none

/-- Whether the number differs from zero, if it says so. -/
def nonzero? : Number → Option Bool
  | int n => some (n != 0)
  | float x => some !x.isZero
  | decimal d => d.nonzero?
  | fraction q => some (q.numerator != 0)
  | complex z => some !z.isZero

end Number

end Stencil
