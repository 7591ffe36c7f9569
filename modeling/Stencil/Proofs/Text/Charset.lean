import Stencil.Text.Charset

namespace Stencil

namespace Charset

/-- Whether a set has a code point. -/
def has : Charset → CodePoint → Bool
  | utf8, x => !x.isSurrogate
  | utf8Signed, x => !x.isSurrogate
  | latin1, x => x.val < 256
  | ascii, x => x.val < 128

/-- Whether a set has every code point of a text. -/
def covers (c : Charset) (t : Text) : Bool := t.all c.has

/-- The bytes of a code point that the set has. -/
def code : Charset → CodePoint → Bytes
  | utf8, x => Utf8.encodeChar x
  | utf8Signed, x => Utf8.encodeChar x
  | latin1, x => [UInt8.ofNat x.val]
  | ascii, x => [UInt8.ofNat x.val]

/-- A text has a UTF-8 form exactly if it holds no surrogate, and then the forms of its code points
one behind the other. -/
theorem encode?_utf8_eq (t : Text) :
    Utf8.encode? t =
      if t.all fun x => !x.isSurrogate then some (t.flatMap Utf8.encodeChar) else none := by
  rw [Utf8.encode?, Text.hasSurrogate, ← List.not_any_eq_all_not]
  cases t.any CodePoint.isSurrogate <;> rfl

/-- A code with one byte for a code point covers those below its bound. -/
theorem encodeBelow?_eq (bound : Nat) (t : Text) :
    encodeBelow? bound t =
      if t.all fun x => x.val < bound then some (t.flatMap fun x => [UInt8.ofNat x.val])
      else none := by
  rw [encodeBelow?, List.map_eq_flatMap]

/-- A text is encoded code point by code point. -/
theorem encode?_eq (c : Charset) (t : Text) :
    c.encode? t = if c.covers t then some (t.flatMap c.code) else none := by
  cases c with
  | utf8 => exact encode?_utf8_eq t
  | utf8Signed => exact encode?_utf8_eq t
  | latin1 => exact encodeBelow?_eq 256 t
  | ascii => exact encodeBelow?_eq 128 t

/-- A set has the code points of some texts together if it has those of each. -/
theorem covers_flatten (c : Charset) (ts : List Text) : c.covers ts.flatten = ts.all c.covers := by
  rw [covers, List.all_flatten]
  rfl

end Charset

end Stencil
