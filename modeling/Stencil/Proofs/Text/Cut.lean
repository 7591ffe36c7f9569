import Mathlib.Data.List.DropRight
import Mathlib.Data.List.Infix
import Stencil.Text.Blank

namespace Stencil.Text

/-- Behind the text the separator stands for the first time: with the separator
    behind it, the text holds no other one that begins earlier. -/
def FirstAfter (sep t : Text) : Prop := ∀ u v, t ++ sep = u ++ sep ++ v → v = []

theorem FirstAfter.nil (sep : Text) : FirstAfter sep [] := by
  intro u v heq
  have hlength := congrArg List.length heq
  simp only [List.nil_append, List.length_append] at hlength
  exact List.eq_nil_of_length_eq_zero (by omega)

theorem FirstAfter.tail {sep t : Text} {c : CodePoint} (hfirst : FirstAfter sep (c :: t)) :
    FirstAfter sep t := by
  intro u v heq
  exact hfirst (c :: u) v (by rw [List.cons_append, heq]; rfl)

/-- What has the separator first behind it keeps it first when some of it is taken off the front. -/
theorem FirstAfter.of_append {sep s t : Text} (hfirst : FirstAfter sep (s ++ t)) :
    FirstAfter sep t := by
  intro u v heq
  exact hfirst (s ++ u) v (by rw [List.append_assoc, heq, List.append_assoc, List.append_assoc,
    List.append_assoc])

/-- A separator that begins a text begins it right away: it is not the first one
    behind anything else. -/
theorem FirstAfter.eq_nil_of_starts {sep t rest : Text} (hfirst : FirstAfter sep t)
    (hstarts : sep <+: t ++ sep ++ rest) : t = [] := by
  have hshort : sep <+: t ++ sep :=
    List.prefix_of_prefix_length_le hstarts (List.prefix_append _ _) (by simp)
  obtain ⟨v, hv⟩ := hshort
  have hnil : v = [] := hfirst [] v (by simpa using hv.symm)
  have hlength := congrArg List.length hv
  simp only [hnil, List.append_nil, List.length_append] at hlength
  exact List.eq_nil_of_length_eq_zero (by omega)

/-- The text before the first separator holds none. -/
theorem FirstAfter.not_inside {sep t : Text} (hfirst : FirstAfter sep t) (hsep : sep ≠ []) :
    ¬ sep <:+: t := by
  rintro ⟨u, v, rfl⟩
  have hnil := hfirst u (v ++ sep) (by simp)
  exact hsep (List.append_eq_nil_iff.1 hnil).2

/-- A code point that the separator does not hold keeps its occurrences apart. -/
theorem FirstAfter.cons_of_not_mem {sep s t : Text} {c : CodePoint} (hfirst : FirstAfter sep t)
    (hc : c ∉ sep) (hs : ¬ sep <:+: s) : FirstAfter sep (s ++ c :: t) := by
  intro u v heq
  -- An occurrence begins behind `c` or before it, and before it it would hold `c` or lie in `s`.
  rw [List.append_assoc, List.append_assoc, List.append_eq_append_iff] at heq
  rcases heq with ⟨w, rfl, hw⟩ | ⟨w, rfl, hw⟩
  · cases w with
    | nil =>
      cases sep with
      | nil => exact absurd List.nil_infix hs
      | cons d sep =>
        simp only [List.cons_append, List.nil_append, List.cons.injEq] at hw
        exact absurd (List.mem_cons.2 (.inl hw.1)) hc
    | cons d w =>
      simp only [List.cons_append, List.cons.injEq] at hw
      exact hfirst w v (by rw [hw.2, List.append_assoc])
  · rw [List.append_eq_append_iff] at hw
    rcases hw with ⟨x, rfl, _⟩ | ⟨x, hx, hv⟩
    · exact absurd ⟨u, x, by simp⟩ hs
    · cases x with
      | nil => exact absurd ⟨u, [], by simp [hx]⟩ hs
      | cons d x =>
        simp only [List.cons_append, List.cons.injEq] at hv
        exact absurd (by simp [hx, ← hv.1]) hc

/-- Two equal code points stand first behind a text that neither holds them nor ends in one. -/
theorem FirstAfter.of_pair {c : CodePoint} {t : Text} (hinside : ¬ [c, c] <:+: t)
    (hlast : t.getLast? ≠ some c) : FirstAfter [c, c] t := by
  rcases List.eq_nil_or_concat t with rfl | ⟨before, d, rfl⟩
  · exact .nil _
  · rw [List.concat_eq_append] at hinside hlast ⊢
    have hapart : d ∉ [c, c] := by simpa using hlast
    have hbefore : ¬ [c, c] <:+: before := fun hin =>
      hinside (hin.trans (List.prefix_append _ _).isInfix)
    exact (FirstAfter.nil [c, c]).cons_of_not_mem hapart hbefore

/-- What stands in front of a cut does not hold the separator earlier. -/
theorem firstAfter_of_cut? {sep t a b : Text} (hcut : cut? sep t = some (a, b)) :
    FirstAfter sep a := by
  induction t generalizing a b with
  | nil =>
    unfold cut? at hcut
    split at hcut
    · cases hcut
      exact .nil sep
    · cases hcut
  | cons c r ih =>
    unfold cut? at hcut
    split at hcut
    · cases hcut
      exact .nil sep
    · rename_i hstarts
      obtain ⟨⟨d, e⟩, hrest, hpair⟩ := Option.map_eq_some_iff.1 hcut
      cases hpair
      intro u v heq
      cases u with
      | nil =>
        rw [List.isPrefixOf_iff_prefix] at hstarts
        refine absurd ⟨v ++ e, ?_⟩ hstarts
        rw [cut?_eq_some hrest, ← List.append_assoc]
        simpa using congrArg (· ++ e) heq.symm
      | cons x u =>
        simp only [List.cons_append, List.cons.injEq] at heq
        exact ih hrest u v heq.2

/-- A text is cut where the separator comes first. -/
theorem cut?_of_firstAfter {sep a : Text} (hfirst : FirstAfter sep a) (b : Text) :
    cut? sep (a ++ sep ++ b) = some (a, b) := by
  induction a with
  | nil =>
    rw [List.nil_append]
    cases hwhole : sep ++ b with
    | nil =>
      obtain ⟨rfl, rfl⟩ := List.append_eq_nil_iff.1 hwhole
      rfl
    | cons c r =>
      have hstarts : sep <+: c :: r := ⟨b, hwhole⟩
      unfold cut?
      rw [if_pos (List.isPrefixOf_iff_prefix.2 hstarts), ← hwhole, List.drop_left]
  | cons c a ih =>
    have hstarts : ¬ sep <+: c :: (a ++ sep ++ b) := by
      intro hstarts
      cases hfirst.eq_nil_of_starts hstarts
    rw [List.cons_append, List.cons_append, cut?,
      if_neg (by rwa [List.isPrefixOf_iff_prefix]), ih hfirst.tail]
    rfl

/-- A cut takes the part before the first separator and the part behind it. -/
theorem cut?_eq_some_iff {sep t a b : Text} :
    cut? sep t = some (a, b) ↔ t = a ++ sep ++ b ∧ FirstAfter sep a := by
  constructor
  · exact fun hcut => ⟨cut?_eq_some hcut, firstAfter_of_cut? hcut⟩
  · rintro ⟨rfl, hfirst⟩
    exact cut?_of_firstAfter hfirst b

/-- A text is not cut only if it does not hold the separator. -/
theorem cut?_eq_none_iff {sep t : Text} : cut? sep t = none ↔ ¬ sep <:+: t := by
  induction t with
  | nil => simp [cut?]
  | cons c r ih =>
    rw [cut?, List.infix_cons_iff]
    by_cases hstarts : sep <+: c :: r
    · simp [List.isPrefixOf_iff_prefix.2 hstarts, hstarts]
    · simp [List.isPrefixOf_iff_prefix, hstarts, ih]

/-- The first occurrence of a separator that occurs at all. -/
theorem exists_firstAfter {sep t : Text} (hin : sep <:+: t) :
    ∃ a b, t = a ++ sep ++ b ∧ FirstAfter sep a := by
  cases hcut : cut? sep t with
  | none => exact absurd hin (cut?_eq_none_iff.1 hcut)
  | some p => exact ⟨p.1, p.2, cut?_eq_some_iff.1 hcut⟩

theorem trim_isInfix (t : Text) : trim t <:+: t :=
  (List.rdropWhile_prefix _ _).isInfix.trans (List.dropWhile_suffix _).isInfix

theorem trimLeft_trim (t : Text) : trimLeft (trim t) = trim t := by
  have hstarts : trim t <+: trimLeft t := List.rdropWhile_prefix _ _
  have hfirst := List.dropWhile_eq_self_iff.1 (List.dropWhile_idempotent CodePoint.isBlank t)
  refine List.dropWhile_eq_self_iff.2 fun hpos => ?_
  rw [hstarts.getElem hpos]
  exact hfirst (hpos.trans_le hstarts.length_le)

/-- What is trimmed has no outer blanks to be trimmed. -/
theorem trim_trim (t : Text) : trim (trim t) = trim t := by
  rw [trim, trimLeft_trim]
  exact List.rdropWhile_idempotent _ _

/-- A code point that is not blank stays at the start. -/
theorem head?_trim_cons {c : CodePoint} (hc : c.isBlank = false) (t : Text) :
    (trim (c :: t)).head? = some c := by
  have hleft : trimLeft (c :: t) = c :: t := by simp [trimLeft, hc]
  rw [trim, hleft, trimRight, trimLeft, List.head?_reverse, List.reverse_cons, List.dropWhile_append]
  split <;> simp [hc]

/-- Trimming at the end keeps the first code point that trimming at the start leaves. -/
theorem head?_trim (t : Text) : (trim t).head? = (trimLeft t).head? := by
  have hblank := List.head?_dropWhile_not CodePoint.isBlank t
  rw [show t.dropWhile CodePoint.isBlank = trimLeft t from rfl] at hblank
  cases hleft : trimLeft t with
  | nil => rw [trim, hleft]; rfl
  | cons c r =>
    rw [hleft] at hblank
    have hc : c.isBlank = false := by simpa using hblank
    have hkept : trimLeft (c :: r) = c :: r := by simp [trimLeft, hc]
    have hsame : trim t = trim (c :: r) := by rw [trim, trim, hleft, hkept]
    rw [hsame, head?_trim_cons hc]
    rfl

/-- A separator without blanks survives trimming. -/
theorem infix_trimLeft {sep t : Text} (hne : sep ≠ []) (hsep : ∀ c ∈ sep, c.isBlank = false)
    (hin : sep <:+: t) : sep <:+: trimLeft t := by
  induction t with
  | nil => exact hin
  | cons c r ih =>
    rw [trimLeft, List.dropWhile_cons]
    split
    · rename_i hblank
      refine ih ((List.infix_cons_iff.1 hin).resolve_left fun hstarts => ?_)
      cases sep with
      | nil => exact hne rfl
      | cons d sep =>
        obtain ⟨rfl, -⟩ := List.cons_prefix_cons.1 hstarts
        simp [hsep d] at hblank
    · exact hin

/-- Blanks at the ends of a text are of no account for what it holds that has no blanks. -/
theorem infix_trim_iff {sep t : Text} (hne : sep ≠ []) (hsep : ∀ c ∈ sep, c.isBlank = false) :
    sep <:+: trim t ↔ sep <:+: t := by
  refine ⟨fun hin => hin.trans t.trim_isInfix, fun hin => ?_⟩
  have hleft := List.reverse_infix.2 (infix_trimLeft hne hsep hin)
  have hright : sep.reverse <:+: trimLeft (trimLeft t).reverse :=
    infix_trimLeft (by simpa using hne) (fun c hc => hsep c (List.mem_reverse.1 hc)) hleft
  have hback := List.reverse_infix.2 hright
  rwa [List.reverse_reverse] at hback

theorem trimRight_append_blank (t : Text) {u : Text} (hu : u.isBlank = true) :
    trimRight (t ++ u) = trimRight t := by
  have hall : ∀ c ∈ u.reverse, c.isBlank := by simpa [isBlank] using hu
  rw [trimRight, trimLeft, List.reverse_append, List.dropWhile_append_of_pos hall]
  rfl

/-- Blanks around a text are no part of what trimming leaves. -/
theorem trim_blank_append_blank {s u : Text} (hs : s.isBlank = true) (t : Text)
    (hu : u.isBlank = true) : trim (s ++ t ++ u) = trim t := by
  have hall : ∀ c ∈ s, c.isBlank := by simpa [isBlank] using hs
  rw [trim, trimLeft, List.append_assoc, List.dropWhile_append_of_pos hall, List.dropWhile_append]
  split
  · rename_i hempty
    have hblank : trimLeft t = [] := List.isEmpty_iff.1 hempty
    rw [trim, hblank]
    exact congrArg trimRight (trimLeft_of_isBlank hu)
  · exact trimRight_append_blank _ hu

end Stencil.Text
