import Stencil.Number.Literal

namespace Stencil

/-- A ratio in lowest terms with a positive denominator. -/
structure Fraction where
  numerator : Int
  denominator : Nat
  denominator_pos : 0 < denominator
deriving DecidableEq

namespace Fraction

/-- The ratio of a whole number and a positive one in lowest terms. -/
def ofRatio (p : Int) (q : Nat) (h : 0 < q) : Fraction where
  numerator := p / (Nat.gcd p.natAbs q : Int)
  denominator := q / Nat.gcd p.natAbs q
  denominator_pos :=
    Nat.div_pos (Nat.le_of_dvd h (Nat.gcd_dvd_right _ _)) (Nat.gcd_pos_of_pos_right _ h)

/-- The digits that a text starts with after a digit or not, without the underscores between them,
and the rest of the text. -/
def readDigits : (digit : Bool) → Text → Text × Text
  | _, [] => ([], [])
  | digit, c :: r =>
    if c.isDigit then
      let p := readDigits true r
      (c :: p.1, p.2)
    else if c.is '_' && digit && r.head?.any CodePoint.isDigit then readDigits false r
    else ([], c :: r)

/-- What a text holds behind a point: digits, or letters `d`, which no number can be made of. -/
def readPart (t : Text) : Text × Text :=
  match t.span fun c => c.toLower.is 'd' with
  | ([], _) => readDigits false t
  | p => p

/-- A fraction as it is written, without its underscores. -/
structure Written where
  negative : Bool
  /-- The digits before the stroke or the point. -/
  whole : Text
  denominator : Option Text := none
  /-- What stands behind the point. -/
  part : Text := []
  powerNegative : Bool := false
  /-- The digits of the power of ten. -/
  power : Text := []

/-- Reads a power of ten at the end of a fraction. -/
def Written.withPower? (w : Written) : Text → Option Written
  | [] => some w
  | c :: r =>
    if c.toLower.is 'e' then
      let (negative, r) := Literal.readSign r
      match readDigits false r with
      | ([], _) => none
      | (power, []) => some { w with powerNegative := negative, power }
      | _ => none
    else none

/-- The parts of a written fraction: `p/q`, or a decimal literal, with blanks around it. -/
def written? (t : Text) : Option Written :=
  let (negative, r) := Literal.readSign t.asciiDigits.trim
  let (whole, rest) := readDigits false r
  match rest with
  | [] => if whole = [] then none else some { negative, whole }
  | c :: s =>
    if c.is '.' then
      if whole = [] && !s.head?.any CodePoint.isDigit then none
      else
        let (part, s) := readPart s
        Written.withPower? { negative, whole, part } s
    else if whole = [] then none
    else if c.is '/' then
      match readDigits false s with
      | ([], _) => none
      | (ds, []) => some { negative, whole, denominator := some ds }
      | _ => none
    else Written.withPower? { negative, whole } (c :: s)

/-- The fraction `± n · 10 ^ e`. -/
def ofScaled (negative : Bool) (n : Nat) (e : Int) : Fraction :=
  let p : Int := if negative then -(n : Int) else n
  if e ≥ 0 then ofRatio (p * (Nat.pow 10 e.toNat : Nat)) 1 (by decide)
  else ofRatio p (Nat.pow 10 (-e).toNat) (Nat.pow_pos (by decide))

/-- Written `p/q`, or `p` alone if the denominator is one. -/
def toText (x : Fraction) : Text :=
  if x.denominator = 1 then Text.ofInt x.numerator
  else Text.ofInt x.numerator ++ Text.of "/" ++ Text.ofNat x.denominator

end Fraction

end Stencil
