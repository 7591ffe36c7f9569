import Stencil.Number.Shortest

namespace Stencil

/-- A pair of binary floating-point numbers. -/
structure Complex where
  real : Binary64
  imaginary : Binary64
deriving DecidableEq

namespace Complex

def zero : Binary64 := .finite false 0 Binary64.minExponent

/-- The unit after the imaginary part, with or without a number before it. -/
def isUnit (t : Text) : Bool := t == Text.of "j"

/-- A signed unit without digits stands for one. -/
def readUnit? (t : Text) : Option Binary64 :=
  let (negative, r) := Literal.readSign t
  if isUnit r then some (Binary64.ofRatio negative 1 1) else none

/-- A complex number without anything around it: a real part, an imaginary part, or both. -/
def readBare? (t : Text) : Option Complex :=
  match readUnit? t with
  | some y => some ⟨zero, y⟩
  | none =>
    match Binary64.readPrefix? t with
    | none => none
    | some (x, []) => some ⟨x, zero⟩
    | some (x, rest) =>
      if isUnit rest then some ⟨zero, x⟩
      else match readUnit? rest with
        | some y => some ⟨x, y⟩
        | none =>
          match rest with
          | c :: _ =>
            if c = '+' ∨ c = '-' then
              match Binary64.readPrefix? rest with
              | some (y, last) => if isUnit last then some ⟨x, y⟩ else none
              | none => none
            else none
          | [] => none

/-- What stands between parentheses, without the white space around it, or the text itself. -/
def unwrap (t : Text) : Text :=
  match t with
  | [] => []
  | c :: r =>
    if c.is '(' && r.getLast? = some (CodePoint.ofChar ')') then Text.trimWhite r.dropLast else c :: r

/-- A written complex number, perhaps in parentheses, with white space around it, and with
underscores between its digits. -/
def read? (t : Text) : Option Complex := t.plainNumeral.ungroup?.bind fun t => readBare? (unwrap t)

/-- The text of a part, with its sign always shown if `signed`. -/
def partText (signed : Bool) (x : Binary64) : Text :=
  let t := x.toTextWith []
  if signed ∧ t.head? ≠ some (CodePoint.ofChar '-') then Text.of "+" ++ t else t

/-- A real part that is zero without a sign is left out; otherwise both parts stand between
parentheses. Whole parts have no point. -/
def toText (z : Complex) : Text :=
  if z.real = zero then partText false z.imaginary ++ Text.of "j"
  else Text.of "(" ++ partText false z.real ++ partText true z.imaginary ++ Text.of "j)"

def isZero (z : Complex) : Bool := z.real.isZero && z.imaginary.isZero

end Complex

end Stencil
