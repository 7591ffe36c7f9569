import Stencil.Text.Basic

namespace Stencil

namespace Entities

/-- The significant characters and what is written for them. -/
def table : List (CodePoint × Text) :=
  [('&', Text.ofChars ['&', 'a', 'm', 'p', ';']),
   ('<', Text.ofChars ['&', 'l', 't', ';']),
   ('>', Text.ofChars ['&', 'g', 't', ';']),
   ('"', Text.ofChars ['&', '#', '3', '4', ';']),
   (⟨0x27, by decide⟩, Text.ofChars ['&', '#', '3', '9', ';'])]

/-- What is written for one code point: its entity, or itself. -/
def encodeChar (c : CodePoint) : Text := (table.lookup c).getD [c]

/-- A text with every significant character written as its entity. -/
def encode (t : Text) : Text := t.flatMap encodeChar

/-- The character whose entity a text starts with, and the length of that entity. -/
def entityAt? (t : Text) : Option (CodePoint × Nat) :=
  (table.find? fun e => e.2.isPrefixOf t).map fun e => (e.1, e.2.length)

/-- Reads entities after `skip` code points of one that is already read. -/
def decodeFrom : Nat → Text → Text
  | _, [] => []
  | skip + 1, _ :: r => decodeFrom skip r
  | 0, c :: r =>
    match entityAt? (c :: r) with
    | some (d, n) => d :: decodeFrom (n - 1) r
    | none => c :: decodeFrom 0 r

/-- One pass from left to right that replaces each entity by its character. -/
def decode (t : Text) : Text := decodeFrom 0 t

theorem encode_append (s t : Text) : encode (s ++ t) = encode s ++ encode t :=
  List.flatMap_append

theorem entityAt?_of_ne {c : CodePoint} (h : c ≠ '&') (r : Text) : entityAt? (c :: r) = none := by
  have h' : ((CodePoint.ofChar '&') == c) = false := by simpa using fun e => h e.symm
  simp [entityAt?, table, Text.ofChars, List.isPrefixOf, h']

theorem decode_encodeChar_append (c : CodePoint) (t : Text) :
    decode (encodeChar c ++ t) = c :: decode t := by
  unfold encodeChar
  cases h : table.lookup c with
  | some e =>
    have hm : (c, e) ∈ table := by
      clear t
      unfold table at *
      simp only [List.lookup_cons] at h
      grind
    simp only [table, List.mem_cons, Prod.mk.injEq, List.not_mem_nil, or_false] at hm
    rcases hm with ⟨rfl, rfl⟩ | ⟨rfl, rfl⟩ | ⟨rfl, rfl⟩ | ⟨rfl, rfl⟩ | ⟨rfl, rfl⟩ <;> rfl
  | none =>
    have hc : c ≠ '&' := by
      rintro rfl
      cases h
    simp [decode, decodeFrom, entityAt?_of_ne hc]

/-- Nothing is lost by writing entities: one pass from left to right gives the text back. -/
theorem decode_encode (s : Text) : decode (encode s) = s := by
  induction s with
  | nil => rfl
  | cons c r ih =>
    rw [show encode (c :: r) = encodeChar c ++ encode r from rfl, decode_encodeChar_append, ih]

end Entities

end Stencil
