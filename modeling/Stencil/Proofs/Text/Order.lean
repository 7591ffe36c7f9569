import Stencil.Text.Basic

namespace Stencil

namespace Text

/-- The first code points decide, and the rests if they are the same. -/
theorem le_cons_iff {a b : CodePoint} {s t : Text} :
    le (a :: s) (b :: t) = true ↔ a.val < b.val ∨ a = b ∧ le s t = true := by
  have hval : a.val = b.val ↔ a = b := ⟨CodePoint.ext_val, fun heq => heq ▸ rfl⟩
  simp [le, hval]

/-- The order of texts by the numbers of their code points is transitive. -/
theorem le_trans {r s t : Text} (hrs : le r s = true) (hst : le s t = true) : le r t = true := by
  induction r generalizing s t with
  | nil => rfl
  | cons a r ih =>
    cases s with
    | nil => cases hrs
    | cons b s =>
      cases t with
      | nil => cases hst
      | cons c t =>
        rw [le_cons_iff] at hrs hst ⊢
        rcases hrs with hab | ⟨rfl, hrs⟩
        · rcases hst with hbc | ⟨rfl, -⟩
          · exact .inl (Nat.lt_trans hab hbc)
          · exact .inl hab
        · rcases hst with hbc | ⟨rfl, hst⟩
          · exact .inl hbc
          · exact .inr ⟨rfl, ih hrs hst⟩

theorem le_total (s t : Text) : (le s t || le t s) = true := by
  rw [Bool.or_eq_true]
  induction s generalizing t with
  | nil => exact .inl rfl
  | cons a s ih =>
    cases t with
    | nil => exact .inr rfl
    | cons b t =>
      rw [le_cons_iff, le_cons_iff]
      rcases Nat.lt_trichotomy a.val b.val with hlt | heq | hgt
      · exact .inl (.inl hlt)
      · obtain rfl := CodePoint.ext_val heq
        exact (ih t).imp (fun hst => .inr ⟨rfl, hst⟩) fun hts => .inr ⟨rfl, hts⟩
      · exact .inr (.inl hgt)

/-- Only a text itself is both before and behind it. -/
theorem le_antisymm {s t : Text} (hst : le s t = true) (hts : le t s = true) : s = t := by
  induction s generalizing t with
  | nil =>
    cases t with
    | nil => rfl
    | cons b t => cases hts
  | cons a s ih =>
    cases t with
    | nil => cases hst
    | cons b t =>
      rw [le_cons_iff] at hst hts
      rcases hst with hab | ⟨rfl, hst⟩
      · rcases hts with hba | ⟨rfl, -⟩
        · exact absurd hab (Nat.lt_asymm hba)
        · exact absurd hab (Nat.lt_irrefl _)
      · rcases hts with hba | ⟨-, hts⟩
        · exact absurd hba (Nat.lt_irrefl _)
        · rw [ih hst hts]

/-- Texts in order. -/
def Sorted (ts : List Text) : Prop := ts.Pairwise fun s t => le s t = true

instance (ts : List Text) : Decidable (Sorted ts) := inferInstanceAs (Decidable (ts.Pairwise _))

theorem sorted_mergeSort (ts : List Text) : Sorted (ts.mergeSort le) :=
  @List.pairwise_mergeSort _ le (fun _ _ _ => le_trans) le_total ts

/-- Texts can be sorted in one way only. -/
theorem sorted_unique {ss ts : List Text} (hss : Sorted ss) (hts : Sorted ts)
    (hperm : ss.Perm ts) : ss = ts :=
  hperm.eq_of_pairwise (fun _ _ _ _ => le_antisymm) hss hts

end Text

end Stencil
