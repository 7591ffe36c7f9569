import Stencil.FileSystem.Basic

namespace Stencil

namespace Path

/-- A name of an entry: it leads neither nowhere nor above, and it is not too long. -/
structure IsName (n : Text) : Prop where
  moving : n ≠ [] ∧ n ≠ here
  below : n ≠ above
  short : n.utf8Size ≤ nameLimit

instance (n : Text) : Decidable (IsName n) :=
  decidable_of_iff ((n ≠ [] ∧ n ≠ here) ∧ n ≠ above ∧ n.utf8Size ≤ nameLimit)
    ⟨fun ⟨moving, below, short⟩ => ⟨moving, below, short⟩,
      fun h => ⟨h.moving, h.below, h.short⟩⟩

/-- Every code point of a text has bytes, and none is NUL. -/
def IsClean (t : Text) : Prop := ∀ c ∈ t, isLost c = false ∧ c.val ≠ 0

instance (t : Text) : Decidable (IsClean t) :=
  inferInstanceAs (Decidable (∀ c ∈ t, isLost c = false ∧ c.val ≠ 0))

theorem isClean_append_iff {s t : Text} : IsClean (s ++ t) ↔ IsClean s ∧ IsClean t :=
  List.forall_mem_append

/-- What can be wrong with a clean path is its length. -/
theorem fault?_of_clean {t : Text} (hclean : IsClean t) :
    fault? t = if lengthLimit < t.utf8Size then some .nameTooLong else none := by
  have hlost : t.any isLost = false := List.any_eq_false.2 fun c hc => by simp [(hclean c hc).1]
  have hnull : (t.any fun c => c.val == 0) = false :=
    List.any_eq_false.2 fun c hc => by simpa using (hclean c hc).2
  simp only [fault?, hlost, hnull, Bool.false_eq_true, if_false]

theorem isClean_of_fault? {t : Text} (husable : fault? t = none) : IsClean t := by
  unfold fault? at husable
  split at husable
  · cases husable
  · rename_i hlost
    split at husable
    · cases husable
    · rename_i hnull
      intro c hc
      simp only [List.any_eq_true, not_exists, not_and] at hlost hnull
      exact ⟨by simpa using hlost c hc, by simpa using hnull c hc⟩

/-- A path can be used if it is clean and not too long. -/
theorem fault?_eq_none_iff {t : Text} :
    fault? t = none ↔ IsClean t ∧ t.utf8Size ≤ lengthLimit := by
  constructor
  · intro husable
    have hclean := isClean_of_fault? husable
    refine ⟨hclean, Nat.not_lt.1 fun hlong => ?_⟩
    simp [fault?_of_clean hclean, hlong] at husable
  · rintro ⟨hclean, hsize⟩
    rw [fault?_of_clean hclean, if_neg (by omega)]

/-- A part of a path that can be used can be used. -/
theorem fault?_of_append {s t : Text} (h : fault? (s ++ t) = none) : fault? s = none := by
  obtain ⟨hclean, hsize⟩ := fault?_eq_none_iff.1 h
  rw [Text.utf8Size_append] at hsize
  exact fault?_eq_none_iff.2 ⟨(isClean_append_iff.1 hclean).1, by omega⟩

/-- The parent of a path lacks its last name. -/
theorem parent_concat (root : Text) (names : List Text) (n : Text) :
    parent ⟨root, names ++ [n]⟩ = ⟨root, names⟩ := by
  simp [parent]

theorem joinWith_concat (sep : Text) (ts : List Text) (t : Text) :
    Text.joinWith sep (ts ++ [t]) = (if ts = [] then [] else Text.joinWith sep ts ++ sep) ++ t := by
  induction ts with
  | nil => rfl
  | cons u us ih =>
    cases us with
    | nil => simp [Text.joinWith]
    | cons v vs =>
      have hjoin : Text.joinWith sep (u :: v :: (vs ++ [t])) =
          u ++ sep ++ Text.joinWith sep (v :: (vs ++ [t])) := rfl
      rw [List.cons_append, List.cons_append, hjoin, ← List.cons_append, ih]
      simp [Text.joinWith]

/-- The directories above a path that can be used can be used. -/
theorem fault?_init {root : Text} {names : List Text} {n : Text}
    (h : fault? (toText ⟨root, names ++ [n]⟩) = none) : fault? (toText ⟨root, names⟩) = none := by
  have htext : toText ⟨root, names ++ [n]⟩ =
      root ++ Text.joinWith [separator] (names ++ [n]) := by
    simp [toText]
  rw [htext, joinWith_concat] at h
  by_cases hnames : names = []
  · rw [hnames, if_pos rfl] at h
    by_cases hroot : root = []
    · rw [hroot, hnames]
      decide
    · have hroot' : toText ⟨root, names⟩ = root := by simp [toText, hroot, hnames, Text.joinWith]
      rw [hroot']
      exact fault?_of_append h
  · have htext' : toText ⟨root, names⟩ = root ++ Text.joinWith [separator] names := by
      simp [toText, hnames]
    rw [if_neg hnames, List.append_assoc, ← List.append_assoc] at h
    rw [htext']
    exact fault?_of_append h

theorem isClean_joinWith {sep : Text} (hsep : IsClean sep) {ts : List Text}
    (hts : ∀ t ∈ ts, IsClean t) : IsClean (Text.joinWith sep ts) :=
  Text.forall_mem_joinWith hsep hts

/-- A path of clean names is clean. -/
theorem isClean_ofParts {names : List Text} (hnames : ∀ n ∈ names, IsClean n) :
    IsClean (ofParts names).toText := by
  have htext : (ofParts names).toText = [separator] ++ Text.joinWith [separator] names := by
    simp [ofParts, toText]
  have hseparator : IsClean [separator] := by decide
  rw [htext]
  exact isClean_append_iff.2 ⟨hseparator, isClean_joinWith hseparator hnames⟩

end Path

end Stencil
