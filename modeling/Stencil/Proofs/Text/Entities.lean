import Stencil.Text.Entities
import Stencil.Text.Quoted

namespace Stencil

namespace Entities

/-- What may be written for a significant character. -/
def names : List Text :=
  [Text.of "&amp;", Text.of "&lt;", Text.of "&gt;", Text.of "&#34;", Text.of "&#39;"]

/-- Five code points are written as entities, and no others. -/
theorem lookup_eq_none_iff {c : CodePoint} :
    table.lookup c = none ↔
      c ≠ '&' ∧ c ≠ '<' ∧ c ≠ '>' ∧ c ≠ Text.doubleQuote ∧ c ≠ Text.singleQuote := by
  rw [List.lookup_eq_none_iff]
  simp only [table, List.forall_mem_cons, List.not_mem_nil, false_implies, implies_true, and_true,
    bne_iff_ne]
  rfl

/-- A code point is written as it is or as an entity. -/
theorem encodeChar_cases (c : CodePoint) :
    (table.lookup c = none ∧ encodeChar c = [c]) ∨
      (table.lookup c ≠ none ∧ encodeChar c ∈ names) := by
  unfold encodeChar
  cases hlookup : table.lookup c with
  | none => exact .inl ⟨rfl, rfl⟩
  | some name =>
    obtain ⟨before, after, htable, -⟩ := List.lookup_eq_some_iff.1 hlookup
    have hmem : (c, name) ∈ table := by simp [htable]
    have hnames : names = table.map Prod.snd := by decide
    exact .inr ⟨by simp, hnames ▸ List.mem_map_of_mem hmem⟩

theorem encode_cons (c : CodePoint) (t : Text) : encode (c :: t) = encodeChar c ++ encode t := rfl

/-- No character of the text is written as an entity. -/
def Plain (t : Text) : Prop := ∀ c ∈ t, (table.lookup c).isNone = true

instance (t : Text) : Decidable (Plain t) := by
  unfold Plain
  infer_instance

@[simp] theorem plain_nil : Plain [] := by simp [Plain]

@[simp] theorem plain_cons_iff {c : CodePoint} {t : Text} :
    Plain (c :: t) ↔ (table.lookup c).isNone = true ∧ Plain t := by simp [Plain]

@[simp] theorem plain_append_iff {s t : Text} : Plain (s ++ t) ↔ Plain s ∧ Plain t := by
  simp only [Plain, List.mem_append, or_imp, forall_and]

theorem Plain.take {t : Text} (hplain : Plain t) (n : Nat) : Plain (t.take n) :=
  fun c hc => hplain c (List.mem_of_mem_take hc)

theorem Plain.drop {t : Text} (hplain : Plain t) (n : Nat) : Plain (t.drop n) :=
  fun c hc => hplain c (List.mem_of_mem_drop hc)

/-- A plain text holds none of the five code points. -/
theorem plain_iff {t : Text} : Plain t ↔ ∀ c ∈ t,
    c ≠ '&' ∧ c ≠ '<' ∧ c ≠ '>' ∧ c ≠ Text.doubleQuote ∧ c ≠ Text.singleQuote := by
  simp only [Plain, Option.isNone_iff_eq_none, lookup_eq_none_iff]

/-- A plain text is written as it is. -/
theorem encode_of_plain {t : Text} (hplain : Plain t) : encode t = t := by
  induction t with
  | nil => rfl
  | cons c t ih =>
    rw [plain_cons_iff] at hplain
    rcases encodeChar_cases c with ⟨-, hchar⟩ | ⟨hsome, -⟩
    · rw [encode_cons, hchar, ih hplain.2]
      rfl
    · exact absurd (by simpa using hplain.1) hsome

theorem one_lt_length_of_mem_names {name : Text} (hname : name ∈ names) : 1 < name.length := by
  revert name
  decide

/-- Entities make a text longer, never shorter. -/
theorem length_le_encode (t : Text) : t.length ≤ (encode t).length := by
  induction t with
  | nil => exact Nat.zero_le _
  | cons c t ih =>
    have hchar : 1 ≤ (encodeChar c).length := by
      rcases encodeChar_cases c with ⟨-, hchar⟩ | ⟨-, hname⟩
      · simp [hchar]
      · exact Nat.le_of_lt (one_lt_length_of_mem_names hname)
    rw [encode_cons, List.length_append, List.length_cons]
    omega

/-- Entities are longer than what they stand for, so only a plain text is written as it is. -/
theorem encode_eq_self_iff {t : Text} : encode t = t ↔ Plain t := by
  refine ⟨fun hsame => ?_, encode_of_plain⟩
  induction t with
  | nil => exact plain_nil
  | cons c t ih =>
    rcases encodeChar_cases c with ⟨hnone, hchar⟩ | ⟨-, hname⟩
    · rw [encode_cons, hchar] at hsame
      exact plain_cons_iff.2 ⟨by simp [hnone], ih (List.cons.inj hsame).2⟩
    · have hlength := congrArg List.length hsame
      have hlong := one_lt_length_of_mem_names hname
      have htail := length_le_encode t
      rw [encode_cons, List.length_append, List.length_cons] at hlength
      omega

/-- A text without markup: no bracket, no quote, and no `&` but at the start of an entity. -/
structure Inert (t : Text) : Prop where
  noMarkup : ∀ c ∈ t, c ≠ '<' ∧ c ≠ '>' ∧ c ≠ Text.doubleQuote ∧ c ≠ Text.singleQuote
  ampersand : ∀ before after : Text, t = before ++ CodePoint.ofChar '&' :: after →
    ∃ name ∈ names, name <+: CodePoint.ofChar '&' :: after

theorem inert_nil : Inert [] := ⟨by simp, by simp⟩

/-- A code point without a meaning may come before an inert text. -/
theorem Inert.cons_of_ne {c : CodePoint} {t : Text} (hne : c ≠ '&')
    (hc : c ≠ '<' ∧ c ≠ '>' ∧ c ≠ Text.doubleQuote ∧ c ≠ Text.singleQuote) (ht : Inert t) :
    Inert (c :: t) := by
  refine ⟨by simpa using ⟨hc, ht.noMarkup⟩, fun before after hsplit => ?_⟩
  cases before with
  | nil =>
    rw [List.nil_append, List.cons.injEq] at hsplit
    exact absurd hsplit.1 hne
  | cons d before =>
    rw [List.cons_append, List.cons.injEq] at hsplit
    exact ht.ampersand before after hsplit.2

/-- An ampersand may come first if it starts an entity there. -/
theorem Inert.ampersand_cons {t : Text}
    (hname : ∃ name ∈ names, name <+: CodePoint.ofChar '&' :: t) (ht : Inert t) :
    Inert (CodePoint.ofChar '&' :: t) := by
  refine ⟨?_, fun before after hsplit => ?_⟩
  · rw [List.forall_mem_cons]
    exact ⟨by decide, ht.noMarkup⟩
  · cases before with
    | nil =>
      rw [List.nil_append] at hsplit
      exact hsplit ▸ hname
    | cons d before =>
      rw [List.cons_append, List.cons.injEq] at hsplit
      exact ht.ampersand before after hsplit.2

/-- An entity keeps its `&` at the start whatever stands behind it. -/
theorem Inert.name_append {name t : Text} (hname : name ∈ names) (ht : Inert t) :
    Inert (name ++ t) := by
  have hshape : ∀ name ∈ names, ∃ rest, name = CodePoint.ofChar '&' :: rest ∧
      ∀ c ∈ rest, c ≠ '&' ∧ c ≠ '<' ∧ c ≠ '>' ∧ c ≠ Text.doubleQuote ∧ c ≠ Text.singleQuote := by
    intro name hname
    refine ⟨name.drop 1, ?_⟩
    revert name
    decide
  obtain ⟨rest, rfl, hrest⟩ := hshape name hname
  refine .ampersand_cons ⟨_, hname, ⟨t, rfl⟩⟩ ?_
  clear hname
  induction rest with
  | nil => exact ht
  | cons c rest ih =>
    rw [List.forall_mem_cons] at hrest
    exact .cons_of_ne hrest.1.1 hrest.1.2 (ih hrest.2)

/-- What is written for one code point is inert before every inert text. -/
theorem inert_encodeChar_append (c : CodePoint) {t : Text} (ht : Inert t) :
    Inert (encodeChar c ++ t) := by
  rcases encodeChar_cases c with ⟨hnone, hchar⟩ | ⟨-, hname⟩
  · obtain ⟨hampersand, hmarkup⟩ := lookup_eq_none_iff.1 hnone
    rw [hchar]
    exact .cons_of_ne hampersand hmarkup ht
  · exact .name_append hname ht

/-- Every text is free of markup once its entities are written. -/
theorem inert_encode (t : Text) : Inert (encode t) := by
  induction t with
  | nil => exact inert_nil
  | cons c t ih => exact inert_encodeChar_append c ih

end Entities

end Stencil
