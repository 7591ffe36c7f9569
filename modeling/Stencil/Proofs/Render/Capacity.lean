import Mathlib.Algebra.BigOperators.Group.List.Basic
import Mathlib.Tactic.Ring
import Stencil.Proofs.Sink.Encoder
import Stencil.Proofs.Value.Hint
import Stencil.Record.Decl

namespace Stencil

namespace Value

/-- Where the hint of a value comes from besides the value itself: what it holds if that is present
or successful, and what the visible fields of a record show. -/
def next : Value → List Value
  | optional inner present => inner.onceIf present
  | success inner => [inner]
  | record table attrs => table.specs.map fun s => attr attrs s.attr
  | adapted inner => [inner]
  | _ => []

mutual

/-- The value itself, and all that is reached from it. -/
def reached : Value → List Value
  | optional inner present => .optional inner present :: if present then inner.reached else []
  | success inner => .success inner :: inner.reached
  | record table attrs =>
    let inner := attrsReached attrs
    .record table attrs :: table.specs.flatMap fun s => (inner.lookup s.attr).getD [unset s.attr]
  | adapted inner => .adapted inner :: inner.reached
  | v => [v]

def attrsReached : List (Text × Value) → List (Text × List Value)
  | [] => []
  | (name, v) :: rest => (name, v.reached) :: attrsReached rest

end

def isRecord : Value → Bool
  | record _ _ => true
  | _ => false

/-- What a value counts by itself if it is a leaf: a text, a boolean, a number, or custom. A custom
value may count more or less for another template, or give up. -/
def leafHint : Value → Except Fault ((literal : Nat) → Int)
  | text t => .ok fun _ => t.utf8Size
  | bool _ => .ok fun _ => scalarHint
  | number _ => .ok fun _ => scalarHint
  | custom c => c.hint
  | _ => .ok fun _ => 0

/-- The number of records that are reached, the value itself included. -/
def recordCount (v : Value) : Nat := v.reached.countP isRecord

/-- What the leaf counts, and nothing if it gives up. -/
def leafCount (literal : Nat) (v : Value) : Int :=
  match v.leafHint with
  | .ok h => h literal
  | .error _ => 0

/-- What the leaves that are reached count together. -/
def leafSum (literal : Nat) (v : Value) : Int := (v.reached.map (leafCount literal)).sum

/-- No leaf that is reached gives up. -/
def Hinted (v : Value) : Prop := ∀ u ∈ v.reached, ∃ h, u.leafHint = .ok h

/-- Every leaf that is reached counts the same for all templates. -/
def ConstantHints (v : Value) : Prop := ∀ u ∈ v.reached, ∃ n, u.leafHint = .ok fun _ => n

theorem ConstantHints.hinted {v : Value} (hconstant : v.ConstantHints) : v.Hinted := fun u hu =>
  (hconstant u hu).imp' _ fun _ h => h

/-- What the leaves count does not depend on the template, if their hints do not. -/
theorem ConstantHints.leafSum_eq {v : Value} (hconstant : v.ConstantHints) (a b : Nat) :
    v.leafSum a = v.leafSum b := by
  rw [leafSum, leafSum]
  congr 1
  refine List.map_congr_left fun u hu => ?_
  obtain ⟨n, hn⟩ := hconstant u hu
  rw [leafCount, leafCount, hn]

theorem attrsReached_eq_map (attrs : List (Text × Value)) :
    attrsReached attrs = attrs.map fun a => (a.1, a.2.reached) := by
  induction attrs with
  | nil => rfl
  | cons a rest ih => rw [attrsReached, ih, List.map_cons]

theorem lookup_attrsReached (attrs : List (Text × Value)) (name : Text) :
    ((attrsReached attrs).lookup name).getD [unset name] = (attr attrs name).reached := by
  have hunset : (unset name).reached = [unset name] := by simp [unset, reached]
  rw [attrsReached_eq_map, ← hunset]
  exact lookup_map_attr reached attrs name

/-- A value is reached, and so is all that is reached from the next ones. -/
theorem reached_eq (v : Value) : v.reached = v :: v.next.flatMap reached := by
  cases v with
  | optional inner present => cases present <;> simp [reached, next, onceIf]
  | record table attrs =>
    rw [reached]
    simp only [lookup_attrsReached, next, List.flatMap_map]
  | success | adapted => simp [reached, next]
  | absent | bool | number | text | sequence | mapping | failure | exception | custom | bare =>
    simp [reached, next]

/-- What a value adds to a hint by itself: a record the literal text, a leaf what it counts. -/
def share (literal : Nat) (v : Value) : Except Fault Int :=
  if v.isRecord then .ok literal else v.leafHint.map fun h => h literal

/-- Hints are added up from left to right, up to the first that fails. -/
theorem sumHints_append (start : Int) (xs ys : List (Except Fault Int)) :
    sumHints start (xs ++ ys) = (sumHints start xs).bind fun n => sumHints n ys := by
  induction xs generalizing start with
  | nil => rfl
  | cons x xs ih =>
    cases x with
    | ok n => exact ih (start + n)
    | error f => rfl

/-- A sum goes on from where it has come. -/
theorem sumHints_start (m n : Int) (xs : List (Except Fault Int)) :
    sumHints (m + n) xs = (sumHints n xs).map (m + ·) := by
  induction xs generalizing n with
  | nil => rfl
  | cons x xs ih =>
    cases x with
    | ok k => rw [sumHints, sumHints, Int.add_assoc, ih]
    | error f => rfl

/-- A sum of sums is the sum of all terms in order. -/
theorem sumHints_flatten (start : Int) (xss : List (List (Except Fault Int))) :
    sumHints start (xss.map (sumHints 0)) = sumHints start xss.flatten := by
  induction xss generalizing start with
  | nil => rfl
  | cons xs xss ih =>
    have hhead := sumHints_start start 0 xs
    rw [Int.add_zero] at hhead
    rw [List.flatten_cons, sumHints_append, hhead, List.map_cons]
    cases sumHints 0 xs with
    | ok n => exact ih (start + n)
    | error f => rfl

/-- A hint is what the value itself adds, and then the hints of what it comes from besides. -/
theorem hint_eq_share (literal : Nat) (v : Value) :
    v.hint literal = sumHints 0 (v.share literal :: v.next.map (hint literal)) := by
  have hsingle : ∀ x : Except Fault Int, sumHints 0 [x] = x := by
    rintro (f | n)
    · rfl
    · rw [sumHints, Int.zero_add, sumHints]
  have hbehind : ∀ x : Except Fault Int, sumHints 0 [.ok 0, x] = x := hsingle
  cases v with
  | optional inner present =>
    cases present with
    | true => exact (hint.eq_4 literal inner true).trans (hbehind _).symm
    | false => exact hint.eq_4 literal inner false
  | success inner => exact (hint.eq_5 literal inner).trans (hbehind _).symm
  | adapted inner => exact (hint.eq_8 literal inner).trans (hbehind _).symm
  | record table attrs =>
    rw [hint_record, next, List.map_map, share, isRecord, if_pos rfl, sumHints, Int.zero_add]
    rfl
  | absent | bool | number | text | sequence | mapping | failure | exception | custom | bare =>
    simp only [hint, next, List.map_nil, hsingle, share, isRecord, leafHint, Bool.false_eq_true,
      if_false, Except.map]

theorem unset_or_part_of_mem_next {v w : Value} (hw : w ∈ v.next) :
    (∃ name, w = unset name) ∨ Part w v := by
  cases v with
  | optional inner present =>
    cases present with
    | true => exact .inr (List.mem_singleton.1 hw ▸ .held inner true)
    | false => cases hw
  | success inner => exact .inr (List.mem_singleton.1 hw ▸ .success inner)
  | adapted inner => exact .inr (List.mem_singleton.1 hw ▸ .adapted inner)
  | record table attrs =>
    obtain ⟨s, _, rfl⟩ := List.mem_map.1 hw
    exact (attr_unset_or_part table attrs s.attr).imp_left fun h => ⟨s.attr, h.2⟩
  | absent | bool | number | text | sequence | mapping | failure | exception | custom | bare =>
    cases hw

/-- Induction on what is counted next. An attribute that is not set is no part of the record, but
stands at the end: nothing is counted behind it. -/
@[elab_as_elim]
theorem induction_on_next {P : Value → Prop} (v : Value)
    (step : ∀ v, (∀ w ∈ v.next, P w) → P v) : P v := by
  induction v using induction_on_parts with
  | step v ih =>
    apply step
    intro w hw
    rcases unset_or_part_of_mem_next hw with ⟨name, rfl⟩ | hpart
    · exact step (unset name) nofun
    · exact ih w hpart

/-- The hint of a value is the sum of the shares of all that is reached from it: the literal text
for each record, and what each leaf counts. -/
theorem hint_eq_sum_share (literal : Nat) (v : Value) :
    v.hint literal = sumHints 0 (v.reached.map (share literal)) := by
  induction v using induction_on_next with
  | step v ih =>
    have hbelow := sumHints_flatten 0 ([v.share literal] :: v.next.map fun w =>
      w.reached.map (share literal))
    rw [hint_eq_share, reached_eq, List.map_cons, List.map_flatMap, List.map_congr_left ih]
    rw [List.map_cons, List.map_map, List.flatten_cons, ← List.flatMap_def] at hbelow
    refine Eq.trans ?_ hbelow
    have hsingle : sumHints 0 [v.share literal] = v.share literal := by
      cases v.share literal with
      | ok n => rw [sumHints, Int.zero_add, sumHints]
      | error f => rfl
    rw [hsingle]
    rfl

theorem share_of_leafHint {literal : Nat} {v : Value} {h : Nat → Int} (hleaf : v.leafHint = .ok h) :
    v.share literal = .ok ((if v.isRecord then (literal : Int) else 0) + v.leafCount literal) := by
  cases v with
  | record table attrs =>
    simp [share, isRecord, leafCount, leafHint]
  | _ => simp [share, isRecord, leafCount, hleaf, Except.map]

/-- If no leaf fails, the shares of values are the literal text once for each record among them, and
the sum of what they count. -/
theorem sumHints_share (start : Int) (literal : Nat) {us : List Value}
    (hhinted : ∀ u ∈ us, ∃ h, u.leafHint = .ok h) :
    sumHints start (us.map (share literal)) =
      .ok (start + (literal * us.countP isRecord + (us.map (leafCount literal)).sum)) := by
  induction us generalizing start with
  | nil => simp [sumHints]
  | cons u us ih =>
    obtain ⟨⟨h, hleaf⟩, hrest⟩ := List.forall_mem_cons.1 hhinted
    rw [List.map_cons, share_of_leafHint hleaf, sumHints, ih _ hrest, List.countP_cons,
      List.map_cons, List.sum_cons]
    congr 1
    cases u.isRecord with
    | true =>
      simp only [if_true]
      push_cast
      ring
    | false =>
      simp only [Bool.false_eq_true, if_false]
      push_cast
      ring

/-- A hint is the literal text once for each record, and what the leaves count. -/
theorem hint_eq (literal : Nat) {v : Value} (hhinted : v.Hinted) :
    v.hint literal = .ok (literal * v.recordCount + v.leafSum literal) := by
  rw [hint_eq_sum_share, sumHints_share 0 literal hhinted, Int.zero_add]
  rfl

/-- The first leaf that gives up is the end of a sum. -/
theorem sumHints_of_fault {us : List Value} (hnot : ¬ ∀ u ∈ us, ∃ h, u.leafHint = .ok h) :
    ∃ u ∈ us, ∃ f, u.leafHint = .error f ∧
      ∀ literal start, sumHints start (us.map (share literal)) = .error f := by
  induction us with
  | nil => exact absurd (fun u hu => absurd hu List.not_mem_nil) hnot
  | cons u us ih =>
    cases hleaf : u.leafHint with
    | error f =>
      have hshare : ∀ literal, u.share literal = .error f := by
        intro literal
        cases u with
        | custom c =>
          simp only [leafHint] at hleaf
          simp [share, isRecord, leafHint, hleaf, Except.map]
        | _ => cases hleaf
      exact ⟨u, List.mem_cons_self, f, hleaf, fun literal start => by
        rw [List.map_cons, hshare, sumHints]⟩
    | ok h =>
      have hrest : ¬ ∀ u ∈ us, ∃ h, u.leafHint = .ok h := fun hall =>
        hnot (List.forall_mem_cons.2 ⟨⟨h, hleaf⟩, hall⟩)
      obtain ⟨w, hw, f, hfault, hsum⟩ := ih hrest
      exact ⟨w, List.mem_cons_of_mem u hw, f, hfault, fun literal start => by
        rw [List.map_cons, share_of_leafHint hleaf, sumHints, hsum]⟩

/-- The hint of the one value comes from the other, at any remove. -/
def LeadsTo : Value → Value → Prop := Relation.ReflTransGen fun v w => w ∈ v.next

/-- A value is reached if a way through visible fields and wrappers leads to it. -/
theorem mem_reached_iff {u v : Value} : u ∈ v.reached ↔ v.LeadsTo u := by
  induction v using induction_on_next with
  | step v ih =>
    rw [reached_eq, List.mem_cons, List.mem_flatMap, LeadsTo, Relation.ReflTransGen.cases_head_iff]
    apply or_congr eq_comm
    apply exists_congr
    intro w
    apply and_congr_right
    exact ih w

theorem recordCount_adapted (inner : Value) : (adapted inner).recordCount = inner.recordCount := by
  simp [recordCount, reached, isRecord]

/-- A record counts itself and the records that are reached from what is next. -/
theorem recordCount_record (table : FieldTable) (attrs : List (Text × Value)) :
    (record table attrs).recordCount =
      ((record table attrs).next.flatMap reached).countP isRecord + 1 := by
  rw [recordCount, reached_eq, List.countP_cons_of_pos rfl]

/-- A record is reached that has another one behind its visible fields. -/
def NestsRecord (v : Value) : Prop :=
  ∃ outer, v.LeadsTo outer ∧ outer.isRecord = true ∧
    ∃ field ∈ outer.next, ∃ inner, field.LeadsTo inner ∧ inner.isRecord = true

theorem nestsRecord_adapted (inner : Value) : (adapted inner).NestsRecord ↔ inner.NestsRecord := by
  constructor
  · rintro ⟨outer, houter, hrecord, hnested⟩
    rcases houter.cases_head with rfl | ⟨w, hw, hwouter⟩
    · cases hrecord
    · cases List.mem_singleton.1 hw
      exact ⟨outer, hwouter, hrecord, hnested⟩
  · rintro ⟨outer, houter, hrecord, hnested⟩
    exact ⟨outer, .head (List.mem_singleton.2 rfl) houter, hrecord, hnested⟩

/-- What is nested at any remove is also nested in the record that all is reached from. -/
theorem nestsRecord_record (table : FieldTable) (attrs : List (Text × Value)) :
    (record table attrs).NestsRecord ↔
      ∃ field ∈ (record table attrs).next, ∃ inner, field.LeadsTo inner ∧ inner.isRecord = true := by
  constructor
  · rintro ⟨outer, houter, hrecord, hnested⟩
    rcases houter.cases_head with rfl | ⟨w, hw, hwouter⟩
    · exact hnested
    · exact ⟨w, hw, outer, hwouter, hrecord⟩
  · intro hnested
    exact ⟨.record table attrs, .refl, rfl, hnested⟩

/-- A value has the kind of a record only as a record or as an adapter around one. -/
@[elab_as_elim]
theorem record_kind_induction {P : (v : Value) → v.kind = .record → Prop}
    (record : ∀ table attrs, P (record table attrs) rfl)
    (adapted : ∀ inner (hinner : inner.kind = .record), P inner hinner → P (adapted inner) hinner)
    (v : Value) (hv : v.kind = .record) : P v hv := by
  induction v using kind.induct with
  | case11 table attrs => exact record table attrs
  | case14 inner ih => exact adapted inner hv (ih hv)
  | case1 | case2 | case3 | case4 | case5 | case6 | case7 | case8 | case9 | case10 | case12
  | case13 => cases hv

theorem recordCount_pos {v : Value} (hv : v.kind = .record) : 1 ≤ v.recordCount := by
  induction v, hv using record_kind_induction with
  | record table attrs =>
    rw [recordCount_record]
    exact Nat.le_add_left 1 _
  | adapted inner hinner ih => rwa [recordCount_adapted]

/-- A record is the only one that is reached from it if it nests none. -/
theorem recordCount_eq_one_iff {v : Value} (hv : v.kind = .record) :
    v.recordCount = 1 ↔ ¬ v.NestsRecord := by
  induction v, hv using record_kind_induction with
  | record table attrs =>
    rw [recordCount_record, Nat.add_eq_right, List.countP_eq_zero, nestsRecord_record]
    simp only [List.mem_flatMap, mem_reached_iff]
    constructor
    · rintro hnone ⟨field, hfield, inner, hinner, hrecord⟩
      exact hnone inner ⟨field, hfield, hinner⟩ hrecord
    · rintro hnone inner ⟨field, hfield, hinner⟩ hrecord
      exact hnone ⟨field, hfield, inner, hinner, hrecord⟩
  | adapted inner hinner ih => rwa [recordCount_adapted, nestsRecord_adapted]

end Value

namespace Template

/-- The capacity of a value is the literal size for each record reached, and the sum of what the
leaves count. -/
theorem capacity_eq (t : Template) {v : Value} (hhinted : v.Hinted) :
    t.capacity v = .ok (t.literalSize * v.recordCount + v.leafSum t.literalSize) :=
  Value.hint_eq t.literalSize hhinted

/-- A leaf that gives up is all that leaves a value without a capacity. -/
theorem capacity_of_not_hinted {v : Value} (hnot : ¬ v.Hinted) :
    ∃ u ∈ v.reached, ∃ f, u.leafHint = .error f ∧ ∀ t : Template, t.capacity v = .error f := by
  obtain ⟨u, hu, f, hfault, hsum⟩ := Value.sumHints_of_fault hnot
  refine ⟨u, hu, f, hfault, fun t => ?_⟩
  rw [capacity, Value.hint_eq_sum_share, hsum]

/-- For a record this is the literal size once exactly if no record is nested in it, or there is no
literal text. -/
theorem capacity_eq_single_iff (t : Template) {v : Value} (hv : v.kind = .record)
    (hhinted : v.Hinted) :
    t.capacity v = .ok (t.literalSize + v.leafSum t.literalSize) ↔
      t.literalSize = 0 ∨ ¬ v.NestsRecord := by
  rw [capacity_eq t hhinted, ← Value.recordCount_eq_one_iff hv, Except.ok.injEq]
  constructor
  · intro hsame
    have hproduct : (t.literalSize : Int) * (v.recordCount - 1) = 0 := by
      rw [Int.mul_sub]
      omega
    rcases Int.mul_eq_zero.1 hproduct with hzero | hsingle
    · exact .inl (by omega)
    · exact .inr (by omega)
  · rintro (hzero | hsingle)
    · rw [hzero]
      omega
    · rw [hsingle]
      omega

/-- The literal text goes in once, and the rest is the same for all sources, only if no record is
nested. -/
theorem exists_amount_iff {v : Value} (hv : v.kind = .record) (hconstant : v.ConstantHints) :
    (∃ amount : Int, ∀ source t, compile source = .ok t →
      t.capacity v = .ok (t.literalSize + amount)) ↔ ¬ v.NestsRecord := by
  have hcapacity := fun t : Template => t.capacity_eq hconstant.hinted
  rw [← Value.recordCount_eq_one_iff hv]
  constructor
  · rintro ⟨amount, hamount⟩
    -- A template without literal text shows the amount, and one with a single byte the count.
    have hempty := hamount [] ⟨[]⟩ (by decide)
    have hbyte := hamount (Text.of "a") ⟨[⟨Text.of "a", .tail⟩]⟩ (by decide)
    have hzero : literalSize ⟨[]⟩ = 0 := rfl
    have hone : literalSize ⟨[⟨Text.of "a", .tail⟩]⟩ = 1 := by decide
    rw [hcapacity, hzero, Except.ok.injEq] at hempty
    rw [hcapacity, hone, hconstant.leafSum_eq 1 0, Except.ok.injEq] at hbyte
    omega
  · intro hsingle
    refine ⟨v.leafSum 0, fun source t _ => ?_⟩
    rw [hcapacity, hsingle, hconstant.leafSum_eq t.literalSize 0]
    congr 1
    omega

/-- What is reserved for a record is the literal text of the template once for each record that is
reached, itself included, and what the leaves that are reached count. So the literal text is counted
once, and all else belongs to the value, exactly if no record is nested. Whatever is written to is
told this size before the first write. Only a leaf that gives up, such as an attribute that is not
set, leaves a record without a size, and then nothing is written. -/
theorem capacity_of_record {v : Value} (hv : v.kind = .record) :
    1 ≤ v.recordCount ∧
    (v.Hinted → ∀ t : Template,
      t.capacity v = .ok (t.literalSize * v.recordCount + v.leafSum t.literalSize) ∧
      (t.capacity v = .ok (t.literalSize + v.leafSum t.literalSize) ↔
        t.literalSize = 0 ∨ ¬ v.NestsRecord) ∧
      ∀ (convert : Conversion) {σ : Type} (e : Encoder σ) (s : σ),
        t.renderInto convert v e s =
          (t.script convert v).handTo e
            (e.reserve (t.literalSize * v.recordCount + v.leafSum t.literalSize) s)) ∧
    (v.ConstantHints → v.Hinted ∧ (∀ a b, v.leafSum a = v.leafSum b) ∧
      ((∃ amount : Int, ∀ source t, compile source = .ok t →
        t.capacity v = .ok (t.literalSize + amount)) ↔ ¬ v.NestsRecord)) ∧
    (¬ v.Hinted → ∃ u ∈ v.reached, ∃ f, u.leafHint = .error f ∧
      ∀ t : Template, t.capacity v = .error f ∧
        ∀ (convert : Conversion) {σ : Type} (e : Encoder σ) (s : σ),
          t.renderInto convert v e s = (s, some (.fault f))) := by
  refine ⟨Value.recordCount_pos hv, fun hhinted t => ?_, fun hconstant => ?_, fun hnot => ?_⟩
  · have hcapacity := t.capacity_eq hhinted
    exact ⟨hcapacity, t.capacity_eq_single_iff hv hhinted,
      fun convert σ e s => renderInto_of_capacity hcapacity e s⟩
  · exact ⟨hconstant.hinted, hconstant.leafSum_eq, exists_amount_iff hv hconstant⟩
  · obtain ⟨u, hu, f, hfault, hcapacity⟩ := capacity_of_not_hinted hnot
    refine ⟨u, hu, f, hfault, fun t => ⟨hcapacity t, fun convert σ e s => ?_⟩⟩
    simp only [renderInto, hcapacity]

/-- A record in a present value is reached. One in a list is not, and neither is one that no field
shows. -/
theorem capacity_of_record_wrapped :
    let name := Text.of "name"
    let author : FieldTable := .ofSpecs [⟨name, name, 0, false⟩]
    let post : FieldTable := .ofSpecs [⟨Text.of "by", Text.of "author", 1, false⟩,
      ⟨Text.of "editor", Text.of "editor", 2, false⟩, ⟨Text.of "readers", Text.of "readers", 3, false⟩,
      ⟨Text.of "likes", Text.of "likes", 4, false⟩]
    let person (text : String) : Value := .record author [(name, .text (Text.of text))]
    let v : Value := .record post [(Text.of "author", .optional (person "ab") true),
      (Text.of "editor", .success (.custom { hint := .ok fun _ => 7 })),
      (Text.of "readers", .sequence [person "c"]), (Text.of "likes", .bool true),
      (Text.of "hidden", person "d")]
    let t : Template := ⟨[⟨Text.of "0123456789", .tail⟩]⟩
    v.kind = .record ∧ v.ConstantHints ∧ v.recordCount = 2 ∧ t.capacity v = .ok 34 ∧
      ¬ ∃ amount : Int, ∀ source t, compile source = .ok t →
        t.capacity v = .ok (t.literalSize + amount) := by
  intro name author post person v t
  have hv : v.kind = .record := rfl
  have hcount : v.recordCount = 2 := by decide
  have hreached : v.reached = [v, .optional (person "ab") true, person "ab", .text (Text.of "ab"),
      .success (.custom { hint := .ok fun _ => 7 }), .custom { hint := .ok fun _ => 7 },
      .sequence [person "c"], .bool true] := rfl
  have hconstant : v.ConstantHints := by
    intro u hu
    rw [hreached] at hu
    simp only [List.mem_cons, List.not_mem_nil, or_false] at hu
    rcases hu with rfl | rfl | rfl | rfl | rfl | rfl | rfl | rfl <;> exact ⟨_, rfl⟩
  obtain ⟨-, hcapacity, hsingle, -⟩ := capacity_of_record hv
  obtain ⟨hhinted, -, hamount⟩ := hsingle hconstant
  refine ⟨hv, hconstant, hcount, ?_, ?_⟩
  · have hliteral : t.literalSize = 10 := by decide
    have hleaves : v.leafSum 10 = 14 := by decide
    rw [(hcapacity hhinted t).1, hcount, hliteral, hleaves]
    rfl
  · rw [hamount, ← Value.recordCount_eq_one_iff hv, hcount]
    decide

/-- A record with one field that holds a record: the literal text, of ten bytes, is reserved
twice. -/
theorem literal_reserved_twice :
    let name : FieldSpec := ⟨Text.of "name", Text.of "name", 15739679558528647255, false⟩
    let title : FieldSpec := ⟨Text.of "title", Text.of "title", 7530813165274739851, false⟩
    let byline : FieldSpec := ⟨Text.of "author", Text.of "author", 6765822225939616619, false⟩
    let author := Value.record (.ofSpecs [name]) [(name.attr, .text (Text.of "c"))]
    let v := Value.record (.ofSpecs [title, byline])
      [(title.attr, .text (Text.of "ab")), (byline.attr, author)]
    let t : Template := ⟨[⟨Text.of "0123456789", .print true ⟨title.name, title.hash⟩⟩]⟩
    RecordType.buildTable .standard (Text.of "Author") (some [{ name := name.name }]) =
        .ok (.ofSpecs [name]) ∧
      RecordType.buildTable .standard (Text.of "Post")
        (some [{ name := title.name }, { name := byline.name }]) = .ok (.ofSpecs [title, byline]) ∧
      compile (Text.of "0123456789\x7b\x7btitle\x7d\x7d") = .ok t ∧
      v.kind = .record ∧ t.literalSize = 10 ∧ v.leafSum 10 = 3 ∧
      (t.renderTo .ok v ({} : Recorder)).1.reserved = [23] ∧
      t.capacity v ≠ .ok (t.literalSize + v.leafSum 10) := by
  decide +kernel

end Template

end Stencil
