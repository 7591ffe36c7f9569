import Mathlib.Data.List.Forall2
import Stencil.Proofs.Results
import Stencil.Proofs.Value.Parts
import Stencil.Render.Walk

namespace Stencil

namespace Value

/-- Two sums of hints that fail alike term by term fail alike. -/
theorem sumHints_alike {xs ys : List (Except Fault Int)} {m n : Int}
    (hterms : List.Forall₂ (fun x y => x.map (fun _ => ()) = y.map fun _ => ()) xs ys) :
    (sumHints m xs).map (fun _ => ()) = (sumHints n ys).map fun _ => () := by
  induction hterms generalizing m n with
  | nil => rfl
  | @cons x y xs ys hxy _ ih =>
    cases x <;> cases y <;> simp only [Except.map, reduceCtorEq, Except.error.injEq] at hxy
    · simp only [sumHints, Except.map, hxy]
    · exact ih

/-- Whether a value has a hint at all does not depend on the template. -/
theorem hint_alike (a b : Nat) (v : Value) :
    (v.hint a).map (fun _ => ()) = (v.hint b).map fun _ => () := by
  induction v using induction_on_parts with
  | step v ih =>
    cases v with
    | optional inner present =>
      cases present with
      | true => simpa only [hint, if_true] using ih inner (.held inner true)
      | false => rfl
    | success inner => simpa only [hint] using ih inner (.success inner)
    | adapted inner => simpa only [hint] using ih inner (.adapted inner)
    | custom c => simp only [hint]; cases c.hint <;> rfl
    | record table attrs =>
      rw [hint_record, hint_record]
      refine sumHints_alike ?_
      rw [List.forall₂_map_left_iff, List.forall₂_map_right_iff]
      refine List.forall₂_same.2 fun s _ => ?_
      rcases attr_unset_or_part table attrs s.attr with ⟨_, hattr⟩ | hpart
      · rw [hattr]
        rfl
      · exact ih _ hpart
    | _ => rfl

/-- The values that refuse to be counted: a custom value may give up its hint, and a record is asked
for every visible attribute. -/
inductive Uncounted : Value → Fault → Prop where
  | custom {c : Content Value} {f : Fault} (hraises : c.hint = .error f) : Uncounted (.custom c) f
  | unset {table : FieldTable} {attrs : List (Text × Value)} {s : FieldSpec}
      (hs : s ∈ table.specs) (hmissing : attrs.lookup s.attr = none) :
      Uncounted (.record table attrs) (.unset s.attr)

/-- A sum of hints fails with one of them. -/
theorem sumHints_eq_error {hints : List (Except Fault Int)} {start : Int} {f : Fault}
    (hfault : sumHints start hints = .error f) : .error f ∈ hints := by
  induction hints generalizing start with
  | nil => cases hfault
  | cons hint hints ih =>
    cases hint with
    | ok n => exact List.mem_cons_of_mem _ (ih hfault)
    | error g =>
      cases hfault
      exact List.mem_cons_self

/-- A value without a hint holds one that refuses to be counted. -/
theorem exists_uncounted {literal : Nat} {v : Value} {f : Fault} (hfault : v.hint literal = .error f) :
    ∃ w, Relation.ReflTransGen Part w v ∧ w.Uncounted f := by
  induction v using induction_on_parts with
  | step v ih =>
    have hinside : ∀ w, Part w v → w.hint literal = .error f →
        ∃ u, Relation.ReflTransGen Part u v ∧ u.Uncounted f := fun w hpart hw => by
      obtain ⟨u, hu, huncounted⟩ := ih w hpart hw
      exact ⟨u, hu.tail hpart, huncounted⟩
    cases v with
    | optional inner present =>
      cases present with
      | true => exact hinside inner (.held inner true) hfault
      | false => cases hfault
    | success inner => exact hinside inner (.success inner) hfault
    | adapted inner => exact hinside inner (.adapted inner) hfault
    | custom c => exact ⟨.custom c, .refl, .custom (map_eq_error_iff.1 hfault)⟩
    | record table attrs =>
      rw [hint_record] at hfault
      obtain ⟨s, hs, hattr⟩ := List.mem_map.1 (sumHints_eq_error hfault)
      rcases attr_unset_or_part table attrs s.attr with ⟨hmissing, hunset⟩ | hpart
      · rw [hunset] at hattr
        cases hattr
        exact ⟨.record table attrs, .refl, .unset hs hmissing⟩
      · exact hinside _ hpart hattr
    | _ => cases hfault

end Value

/-- A value has a capacity with every template, or the same fault with every template. -/
theorem Template.capacity_cases (v : Value) :
    (∀ t : Template, ∃ n, t.capacity v = .ok n) ∨ ∃ f, ∀ t : Template, t.capacity v = .error f := by
  cases hzero : v.hint 0 with
  | ok n =>
    refine .inl fun t => ?_
    have halike := v.hint_alike t.literalSize 0
    rw [hzero] at halike
    cases hhint : v.hint t.literalSize with
    | ok m => exact ⟨m, hhint⟩
    | error f => simp [hhint, Except.map] at halike
  | error f =>
    refine .inr ⟨f, fun t => ?_⟩
    have halike := v.hint_alike t.literalSize 0
    rw [hzero] at halike
    cases hhint : v.hint t.literalSize with
    | ok m => simp [hhint, Except.map] at halike
    | error g =>
      simp only [hhint, Except.map, Except.error.injEq] at halike
      rw [capacity, hhint, halike]

end Stencil
