import Stencil.Number.Basic
import Stencil.Proofs.Text.Entities

namespace Stencil

open Entities

namespace Text

theorem plain_digitChar {d : Nat} (hd : d < 10) :
    (Entities.table.lookup (CodePoint.ofChar (Nat.digitChar d))).isNone = true := by
  revert d
  decide

/-- A whole number is written in digits alone. -/
@[simp] theorem plain_ofNat (n : Nat) : Plain (ofNat n) := by
  induction n using Nat.strongRecOn with
  | ind n ih =>
    unfold ofNat ofChars at ih ⊢
    rw [Nat.toDigits_eq_if (by decide)]
    split
    · rename_i hlt
      simp [plain_digitChar hlt]
    · rename_i hge
      have hlast : n % 10 < 10 := Nat.mod_lt n (by decide)
      simp only [List.map_append, plain_append_iff, List.map_cons, List.map_nil, plain_cons_iff]
      exact ⟨ih (n / 10) (by omega), plain_digitChar hlast, plain_nil⟩

/-- A minus sign before the digits is no markup either. -/
@[simp] theorem plain_ofInt (n : Int) : Plain (ofInt n) := by
  unfold ofInt
  split
  · rw [plain_cons_iff]
    exact ⟨by decide, plain_ofNat _⟩
  · exact plain_ofNat _

@[simp] theorem plain_zeros (n : Nat) : Plain (replicate n '0') := by
  intro c hc
  rw [List.eq_of_mem_replicate hc]
  decide

end Text

/-- Digits with a point among them, or with zeros on either side. -/
theorem Text.plain_placed {digits : Text} (hdigits : Plain digits) {whole : Text}
    (hwhole : Plain whole) (point : Int) :
    Plain (if point ≤ 0 then Text.of "0." ++ Text.replicate (-point).toNat '0' ++ digits
      else if point.toNat < digits.length then
        digits.take point.toNat ++ Text.of "." ++ digits.drop point.toNat
      else digits ++ Text.replicate (point.toNat - digits.length) '0' ++ whole) := by
  have hzero : Plain (Text.of "0.") := by decide
  have hpoint : Plain (Text.of ".") := by decide
  split
  · simp [hzero, hdigits]
  · split
    · simp [hpoint, hdigits.take, hdigits.drop]
    · simp [hdigits, hwhole]

namespace Binary64

/-- The shortest digits of a binary number are laid out with a point or a power of ten, and with
nothing else that could be markup. -/
theorem plain_layOut {whole : Text} (hwhole : Plain whole) (x : Shortest) :
    Plain (layOut whole x) := by
  have hdigits : Plain (Text.ofNat x.digits) := Text.plain_ofNat _
  have hpoint : Plain (Text.of ".") := by decide
  have hminus : Plain (Text.of "e-") := by decide
  have hplus : Plain (Text.of "e+") := by decide
  unfold layOut
  dsimp only
  split
  · exact Text.plain_placed hdigits hwhole _
  · have hfraction : Plain (if (Text.ofNat x.digits).length > 1 then
        Text.of "." ++ (Text.ofNat x.digits).drop 1 else []) := by
      split
      · exact plain_append_iff.2 ⟨hpoint, hdigits.drop 1⟩
      · exact plain_nil
    simp only [plain_append_iff]
    refine ⟨⟨⟨⟨hdigits.take 1, hfraction⟩, ?_⟩, Text.plain_zeros _⟩, Text.plain_ofNat _⟩
    split
    · exact hminus
    · exact hplus

/-- Whatever plain text stands for a whole value, the text of a binary number is plain. -/
theorem plain_toTextWith {whole : Text} (hwhole : Plain whole) (x : Binary64) :
    Plain (x.toTextWith whole) := by
  cases x with
  | nan =>
    rw [toTextWith]
    decide
  | infinite negative =>
    rw [toTextWith]
    cases negative <;> decide
  | finite negative m e =>
    have hsign : Plain (if negative then Text.of "-" else []) := by cases negative <;> decide
    have hzero : Plain (Text.of "0") := by decide
    simp only [toTextWith]
    split
    · simp [hsign, hzero, hwhole]
    · simp [hsign, plain_layOut hwhole]

end Binary64

/-- The text of a decimal number is plain, that of the special values included. -/
theorem Decimal.plain_toText (d : Decimal) : Plain d.toText := by
  have hsign (negative : Bool) : Plain (if negative then Text.of "-" else []) := by
    cases negative <;> decide
  cases d with
  | infinite negative => cases negative <;> decide
  | nan negative signalling payload =>
    have hname : Plain (if signalling then Text.of "sNaN" else Text.of "NaN") := by
      cases signalling <;> decide
    have hpayload : Plain (if payload = 0 then [] else Text.ofNat payload) := by
      split
      · exact plain_nil
      · exact Text.plain_ofNat payload
    simpa only [toText, plain_append_iff] using ⟨⟨hsign negative, hname⟩, hpayload⟩
  | finite negative coefficient exponent =>
    have hdigits : Plain (Text.ofNat coefficient) := Text.plain_ofNat coefficient
    have hletter : Plain (Text.of "E") := by decide
    have hplus : Plain (Text.of "+") := by decide
    unfold toText
    dsimp only
    generalize ((Text.ofNat coefficient).length : Int) + exponent = left
    generalize (if exponent ≤ 0 ∧ left > -6 then left else 1) = point
    rw [plain_append_iff, plain_append_iff]
    refine ⟨⟨hsign negative, ?_⟩, ?_⟩
    · simpa using Text.plain_placed hdigits plain_nil point
    · split
      · exact plain_nil
      · simp only [plain_append_iff]
        refine ⟨⟨hletter, ?_⟩, Text.plain_ofInt _⟩
        split
        · exact hplus
        · exact plain_nil

/-- The stroke of a fraction is no markup. -/
theorem Fraction.plain_toText (q : Fraction) : Plain q.toText := by
  have hstroke : Plain (Text.of "/") := by decide
  unfold toText
  split
  · exact Text.plain_ofInt _
  · simp [hstroke]

namespace Complex

theorem plain_partText (signed : Bool) (x : Binary64) : Plain (partText signed x) := by
  have htext := x.plain_toTextWith plain_nil
  have hplus : Plain (Text.of "+") := by decide
  unfold partText
  dsimp only
  split
  · simp [hplus, htext]
  · exact htext

/-- Nothing in the text of a number has a meaning in HTML: it is made of digits, letters, signs,
points, strokes and parentheses. -/
theorem plain_toText (z : Complex) : Plain z.toText := by
  have hunit : Plain (Text.of "j") := by decide
  have hopen : Plain (Text.of "(") := by decide
  have hclose : Plain (Text.of "j)") := by decide
  unfold toText
  split
  · simp [plain_partText, hunit]
  · simp [plain_partText, hopen, hclose]

end Complex

/-- Numbers are shown without entities because none of them would be written. -/
theorem Number.plain_toText (n : Number) : Plain n.toText := by
  cases n with
  | int n => exact Text.plain_ofInt n
  | float x => exact x.plain_toTextWith (by decide)
  | decimal d => exact d.plain_toText
  | fraction q => exact q.plain_toText
  | complex z => exact z.plain_toText

end Stencil
