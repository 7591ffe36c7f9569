import Stencil.Text.Basic

namespace Stencil

/-- The digit zero of each run, in increasing order. The code points of general category Nd come in
runs of ten, one for each set of digits of a script, in the order of their values. -/
def digitZeros : List Nat :=
  [0x30, 0x660, 0x6F0, 0x7C0, 0x966, 0x9E6, 0xA66, 0xAE6, 0xB66, 0xBE6, 0xC66, 0xCE6, 0xD66,
   0xDE6, 0xE50, 0xED0, 0xF20, 0x1040, 0x1090, 0x17E0, 0x1810, 0x1946, 0x19D0, 0x1A80, 0x1A90,
   0x1B50, 0x1BB0, 0x1C40, 0x1C50, 0xA620, 0xA8D0, 0xA900, 0xA9D0, 0xA9F0, 0xAA50, 0xABF0, 0xFF10,
   0x104A0, 0x10D30, 0x11066, 0x110F0, 0x11136, 0x111D0, 0x112F0, 0x11450, 0x114D0, 0x11650,
   0x116C0, 0x11730, 0x118E0, 0x11950, 0x11C50, 0x11D50, 0x11DA0, 0x16A60, 0x16AC0, 0x16B50,
   0x1D7CE, 0x1D7D8, 0x1D7E2, 0x1D7EC, 0x1D7F6, 0x1E140, 0x1E2F0, 0x1E950, 0x1FBF0]

namespace CodePoint

/-- The value of a decimal digit of any script. -/
def decimalValue? (c : CodePoint) : Option Nat :=
  (digitZeros.find? fun z => z ≤ c.val && c.val < z + 10).map fun z => c.val - z

/-- The ASCII digit of the same value; what is no digit is its own. -/
def toAsciiDigit (c : CodePoint) : CodePoint :=
  if c.val < 0x80 then c
  else match c.decimalValue? with
    | some n => ofNat (0x30 + n)
    | none => c

/-- ASCII digits have their usual values. -/
theorem decimalValue?_of_isDigit {c : CodePoint} (h : c.isDigit = true) :
    c.decimalValue? = some (c.val - 0x30) := by
  simp only [isDigit, Bool.and_eq_true, decide_eq_true_eq] at h
  have hz : digitZeros = 0x30 :: digitZeros.tail := rfl
  have hc : (decide (0x30 ≤ c.val) && decide (c.val < 0x30 + 10)) = true := by
    simp only [Bool.and_eq_true, decide_eq_true_eq]
    omega
  rw [decimalValue?, hz, List.find?_cons]
  simp only [hc, Option.map_some]

end CodePoint

/-- A text with every decimal digit in ASCII. -/
def Text.asciiDigits (t : Text) : Text := t.map CodePoint.toAsciiDigit

end Stencil
