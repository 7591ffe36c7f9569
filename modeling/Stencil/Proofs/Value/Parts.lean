import Mathlib.Logic.Relation
import Stencil.Value.Section

namespace Stencil

namespace Value

/-- What a value is directly made of. -/
inductive Part : Value → Value → Prop where
  | element {v : Value} {items : List Value} (hmem : v ∈ items) : Part v (.sequence items)
  | entry {key : Key} {v : Value} {entries : List (Key × Value)} (hmem : (key, v) ∈ entries) :
      Part v (.mapping entries)
  | held (inner : Value) (present : Bool) : Part inner (.optional inner present)
  | success (inner : Value) : Part inner (.success inner)
  | attr {name : Text} {v : Value} {table : FieldTable} {attrs : List (Text × Value)}
      (hmem : (name, v) ∈ attrs) : Part v (.record table attrs)
  | adapted (inner : Value) : Part inner (.adapted inner)
  /-- What a custom value runs the body of a section with, apart from itself. -/
  | answer {c : Content Value} {convert : Conversion} {inverted : Bool} {v : Value}
      (hmem : some v ∈ (c.nested convert inverted).values) : Part v (.custom c)
  | fieldAnswer {c : Content Value} {convert : Conversion} {inverted : Bool} {hash : Hash}
      {name : Text} {v : Value}
      (hmem : some v ∈ (c.fieldNested convert inverted hash name).values) : Part v (.custom c)

/-- An attribute that is not set fails whenever it is read, and every other one is a part of the
record. -/
theorem attr_unset_or_part (table : FieldTable) (attrs : List (Text × Value)) (name : Text) :
    (attrs.lookup name = none ∧ attr attrs name = unset name) ∨
      Part (attr attrs name) (.record table attrs) := by
  unfold attr
  cases hlookup : attrs.lookup name with
  | none => exact .inl ⟨rfl, rfl⟩
  | some w =>
    obtain ⟨before, after, rfl, _⟩ := List.lookup_eq_some_iff.1 hlookup
    have hmem : (name, w) ∈ before ++ (name, w) :: after := by simp
    exact .inr (.attr hmem)

/-- An attribute that is not set has no section over it. -/
@[simp] theorem plan_unset (convert : Conversion) (inverted : Bool) (name : Text) :
    (unset name).plan convert inverted = .fail (.unset name) := rfl

/-- A field is a part of the value, or an attribute that a record in it lacks. -/
theorem field_unset_or_part {v : Value} {hash : Hash} {name : Text} {f : Field}
    (hfield : v.field? hash name = some f) :
    (∃ table attrs s, s ∈ table.specs ∧ attrs.lookup s.attr = none ∧
      Relation.ReflTransGen Part (.record table attrs) v ∧ f.value = unset s.attr) ∨
      Relation.ReflTransGen Part f.value v := by
  induction v using Value.field?.induct with
  | case1 entries =>
    obtain ⟨w, hlookup, rfl⟩ := Option.map_eq_some_iff.1 hfield
    obtain ⟨before, after, rfl, _⟩ := List.lookup_eq_some_iff.1 hlookup
    have hmem : (Key.name name, w) ∈ before ++ (Key.name name, w) :: after := by simp
    exact .inr (.single (.entry hmem))
  | case2 table attrs =>
    obtain ⟨s, hlookup, rfl⟩ := Option.map_eq_some_iff.1 hfield
    rw [FieldTable.lookup_eq] at hlookup
    rcases attr_unset_or_part table attrs s.attr with ⟨hmissing, hattr⟩ | hpart
    · exact .inl ⟨table, attrs, s, List.mem_of_find?_eq_some hlookup, hmissing, .refl, hattr⟩
    · exact .inr (.single hpart)
  | case3 inner ih =>
    rcases ih hfield with ⟨table, attrs, s, hs, hmissing, hrecord, hattr⟩ | hpart
    · exact .inl ⟨table, attrs, s, hs, hmissing, hrecord.tail (.adapted inner), hattr⟩
    · exact .inr (hpart.tail (.adapted inner))
  | case4 v hmapping hrecord hadapted => simp [Value.field?] at hfield

/-- A value has the property as soon as its parts have it. -/
def Hereditary (P : Value → Prop) : Prop := ∀ v, (∀ w, Part w v → P w) → P v

namespace Hereditary

variable {P : Value → Prop}

mutual

/-- What a value inherits from its parts holds of every value, by the recursion through all the
collections that a value is made of. -/
theorem holds (step : Hereditary P) : ∀ v, P v
  | sequence items => step _ fun w hpart => by
    cases hpart with
    | element hmem => exact step.holds_elements items w hmem
  | mapping entries => step _ fun w hpart => by
    cases hpart with
    | entry hmem => exact step.holds_entries entries _ hmem
  | optional inner present => step _ fun w hpart => by
    cases hpart
    exact step.holds inner
  | success inner => step _ fun w hpart => by
    cases hpart
    exact step.holds inner
  | record table attrs => step _ fun w hpart => by
    cases hpart with
    | attr hmem => exact step.holds_attrs attrs _ hmem
  | custom ⟨_, _, _, nested, _, fieldNested⟩ => step _ fun w hpart => by
    cases hpart with
    | @answer _ convert inverted _ hmem => exact step.holds_plan (nested convert inverted) w hmem
    | @fieldAnswer _ convert inverted hash name _ hmem =>
      exact step.holds_plan (fieldNested convert inverted hash name) w hmem
  | adapted inner => step _ fun w hpart => by
    cases hpart
    exact step.holds inner
  | absent => step _ nofun
  | bool b => step _ nofun
  | number n => step _ nofun
  | text t => step _ nofun
  | failure e => step _ nofun
  | exception e => step _ nofun
  | bare => step _ nofun

theorem holds_elements (step : Hereditary P) : ∀ vs : List Value, ∀ v ∈ vs, P v
  | [] => nofun
  | v :: vs => List.forall_mem_cons.2 ⟨step.holds v, step.holds_elements vs⟩

theorem holds_entries (step : Hereditary P) : ∀ entries : List (Key × Value), ∀ e ∈ entries, P e.2
  | [] => nofun
  | (_, v) :: entries => List.forall_mem_cons.2 ⟨step.holds v, step.holds_entries entries⟩

theorem holds_attrs (step : Hereditary P) : ∀ attrs : List (Text × Value), ∀ a ∈ attrs, P a.2
  | [] => nofun
  | (_, v) :: attrs => List.forall_mem_cons.2 ⟨step.holds v, step.holds_attrs attrs⟩

theorem holds_plan (step : Hereditary P) : ∀ p : Plan (Option Value), ∀ v, some v ∈ p.values → P v
  | ⟨steps, _⟩ => step.holds_steps steps

theorem holds_steps (step : Hereditary P) : ∀ steps : List (Step (Option Value)), ∀ v,
    some v ∈ steps.filterMap Step.value? → P v
  | [] => nofun
  | .ask _ :: steps => step.holds_steps steps
  | .body none :: steps => fun v hmem => step.holds_steps steps v (by simpa [Step.value?] using hmem)
  | .body (some v) :: steps => fun w hmem => by
    rcases List.mem_cons.1 hmem with h | h
    · cases h
      exact step.holds v
    · exact step.holds_steps steps w h

end

end Hereditary

/-- What a value has as soon as its parts have it, every value has. -/
@[elab_as_elim]
theorem induction_on_parts {P : Value → Prop} (v : Value)
    (step : ∀ v, (∀ w, Part w v → P w) → P v) : P v :=
  Hereditary.holds step v

/-- The value has the property, and so has everything that it is made of at any depth. -/
def Everywhere (P : Value → Prop) (v : Value) : Prop := ∀ w, Relation.ReflTransGen Part w v → P w

namespace Everywhere

variable {P : Value → Prop} {v : Value}

theorem self (hall : v.Everywhere P) : P v := hall v .refl

/-- What holds everywhere in a value does so in each of its parts. -/
theorem part {w : Value} (hall : v.Everywhere P) (hpart : Part w v) : w.Everywhere P :=
  fun u hu => hall u (hu.tail hpart)

/-- And everywhere inside those. -/
theorem inside {w : Value} (hall : v.Everywhere P) (hw : Relation.ReflTransGen Part w v) :
    w.Everywhere P := fun u hu => hall u (hu.trans hw)

theorem imp {Q : Value → Prop} (hall : v.Everywhere P) (hPQ : ∀ v, P v → Q v) : v.Everywhere Q :=
  fun w hw => hPQ w (hall w hw)

/-- What holds of a value and everywhere in its parts holds everywhere in it. -/
theorem of_parts (hself : P v) (hparts : ∀ w, Part w v → w.Everywhere P) : v.Everywhere P := by
  intro w hw
  rcases (Relation.ReflTransGen.cases_tail_iff Part w v).1 hw with rfl | ⟨u, hwu, huv⟩
  · exact hself
  · exact hparts u huv w hwu

theorem mapping {entries : List (Key × Value)} (hself : P (.mapping entries))
    (hentries : ∀ key w, (key, w) ∈ entries → w.Everywhere P) :
    (Value.mapping entries).Everywhere P :=
  of_parts hself fun w hpart => by
    cases hpart with
    | entry hmem => exact hentries _ w hmem

theorem sequence {vs : List Value} (hself : P (.sequence vs))
    (hitems : ∀ w ∈ vs, w.Everywhere P) : (Value.sequence vs).Everywhere P :=
  of_parts hself fun w hpart => by
    cases hpart with
    | element hmem => exact hitems w hmem

theorem record {table : FieldTable} {attrs : List (Text × Value)}
    (hself : P (.record table attrs)) (hattrs : ∀ name w, (name, w) ∈ attrs → w.Everywhere P) :
    (Value.record table attrs).Everywhere P :=
  of_parts hself fun w hpart => by
    cases hpart with
    | attr hmem => exact hattrs _ w hmem

theorem text {t : Text} (htext : P (.text t)) : (Value.text t).Everywhere P :=
  of_parts htext fun w hpart => by cases hpart

theorem absent (habsent : P .absent) : Value.absent.Everywhere P :=
  of_parts habsent fun w hpart => by cases hpart

theorem onceIf (hall : v.Everywhere P) (condition : Bool) :
    ∀ w ∈ v.onceIf condition, w.Everywhere P := by
  unfold Value.onceIf
  split
  · simpa using hall
  · simp

/-- If the items of a section are the value itself or nothing, nothing new comes in. -/
theorem ofTruthy (hall : v.Everywhere P) {f : Bool → Bool} {vs : List Value}
    (hitems : (v.truthy.map fun b => v.onceIf (f b)) = .ok vs) : ∀ w ∈ vs, w.Everywhere P := by
  cases htruthy : v.truthy with
  | error e =>
    rw [htruthy] at hitems
    cases hitems
  | ok b =>
    rw [htruthy] at hitems
    cases hitems
    exact hall.onceIf (f b)

theorem sectionItems (hall : v.Everywhere P) {vs : List Value}
    (hitems : v.sectionItems = .ok vs) : ∀ w ∈ vs, w.Everywhere P := by
  induction v using Value.sectionItems.induct with
  | case1 items =>
    cases hitems
    exact fun w hw => hall.part (.element hw)
  | case2 inner present =>
    cases hitems
    exact (hall.part (.held inner present)).onceIf present
  | case3 inner =>
    cases hitems
    simpa using hall.part (.success inner)
  | case4 inner ih => exact ih (hall.part (.adapted inner)) hitems
  | case5 v hsequence hoptional hsuccess hadapted =>
    rw [Value.sectionItems.eq_5 v hsequence hoptional hsuccess hadapted] at hitems
    exact hall.ofTruthy hitems

theorem items (hall : v.Everywhere P) {inverted : Bool} {vs : List Value}
    (hitems : v.items inverted = .ok vs) : ∀ w ∈ vs, w.Everywhere P := by
  cases inverted with
  | true => exact hall.ofTruthy hitems
  | false => exact hall.sectionItems hitems

theorem unset {name : Text} (hunset : P (Value.unset name)) : (Value.unset name).Everywhere P :=
  of_parts hunset fun w hpart => by
    cases hpart with
    | answer hmem | fieldAnswer hmem => simp [Content.failing] at hmem

/-- What a record is known for says enough of the visible attributes that it lacks. -/
def KeptUnset (P : Value → Prop) : Prop :=
  ∀ {table : FieldTable} {attrs : List (Text × Value)} {s : FieldSpec}, s ∈ table.specs →
    attrs.lookup s.attr = none → P (.record table attrs) → P (Value.unset s.attr)

/-- A field leads to a part of the value, or to an attribute that is not set, which the property has
to be kept for. -/
theorem field (hunset : KeptUnset P) (hall : v.Everywhere P) {hash : Hash} {name : Text} {f : Field}
    (hfield : v.field? hash name = some f) : f.value.Everywhere P := by
  rcases field_unset_or_part hfield with ⟨table, attrs, s, hs, hmissing, hrecord, hattr⟩ | hpart
  · exact hattr ▸ .unset (hunset hs hmissing (hall _ hrecord))
  · exact hall.inside hpart

/-- The custom value behind some adapters. -/
theorem own (hall : v.Everywhere P) {c : Content Value} (hown : v.own? = some c) :
    (Value.custom c).Everywhere P := by
  induction v using Value.own?.induct with
  | case1 c' =>
    cases hown
    exact hall
  | case2 inner ih => exact ih (hall.part (.adapted inner)) hown
  | case3 v hcustom hadapted => simp [Value.own?] at hown

/-- The plan of a custom value runs with the value itself or with its parts. -/
theorem resolve {c : Content Value} (hall : (Value.custom c).Everywhere P)
    {p : Plan (Option Value)} (hpart : ∀ w, some w ∈ p.values → Part w (.custom c)) :
    ∀ w ∈ (Value.resolve c p).values, w.Everywhere P := by
  intro w hw
  rw [Value.resolve, Plan.values_map] at hw
  obtain ⟨u, hu, rfl⟩ := List.mem_map.1 hw
  cases u with
  | none => exact hall
  | some u => exact hall.part (hpart u hu)

/-- A section runs with the value or with parts of it. -/
theorem plan (hall : v.Everywhere P) {convert : Conversion} {inverted : Bool} :
    ∀ w ∈ (v.plan convert inverted).values, w.Everywhere P := by
  unfold Value.plan
  cases hown : v.own? with
  | some c => exact (hall.own hown).resolve fun w hw => .answer hw
  | none =>
    intro w hw
    obtain ⟨vs, hitems, hmem⟩ := Plan.mem_values_ofItems.1 hw
    exact hall.items hitems w hmem

/-- What holds everywhere in a value holds everywhere in the values that a section runs its body
with. -/
theorem tagPlan (hall : v.Everywhere P) {convert : Conversion} {inverted : Bool}
    {name : FieldName} : ∀ w ∈ (v.tagPlan convert inverted name).values, w.Everywhere P := by
  rcases v.tagPlan_cases name with hself | ⟨c, hown, hanswer⟩ | ⟨f, hfield, hvalue⟩ | hnone
  · rw [hself]
    exact hall.plan
  · rw [hanswer]
    exact (hall.own hown).resolve fun w hw => .fieldAnswer hw
  · rw [hvalue]
    rcases field_unset_or_part hfield with ⟨_, _, s, _, _, _, hattr⟩ | hpart
    · simp [hattr]
    · exact (hall.inside hpart).plan
  · simp [hnone]

end Everywhere

/-- All that a custom value asks for in its sections, apart from what their bodies do. -/
def AsksOnly (convert : Conversion) (Q : Request → Prop) : Value → Prop
  | custom c =>
    (∀ inverted r, .ask r ∈ (c.nested convert inverted).steps → Q r) ∧
    ∀ inverted hash name r, .ask r ∈ (c.fieldNested convert inverted hash name).steps → Q r
  | _ => True

section Asks

variable {Q : Request → Prop} {v : Value} {convert : Conversion} {inverted : Bool} {r : Request}

/-- A section asks only for what custom values in it ask for. -/
theorem asks_of_plan (hall : v.Everywhere (AsksOnly convert Q))
    (hask : .ask r ∈ (v.plan convert inverted).steps) : Q r := by
  unfold plan at hask
  cases hown : v.own? with
  | some c =>
    rw [hown] at hask
    exact (hall.own hown).self.1 inverted r (Plan.ask_mem_map.1 hask)
  | none =>
    rw [hown] at hask
    exact (Plan.not_ask_mem_ofItems hask).elim

/-- A section asks for nothing else, over the value or over one of its fields. -/
theorem asks_of_tagPlan (hall : v.Everywhere (AsksOnly convert Q)) {name : FieldName}
    (hask : .ask r ∈ (v.tagPlan convert inverted name).steps) : Q r := by
  rcases v.tagPlan_cases name with hself | ⟨c, hown, hanswer⟩ | ⟨f, hfield, hvalue⟩ | hnone
  · rw [hself] at hask
    exact asks_of_plan hall hask
  · rw [hanswer] at hask
    exact (hall.own hown).self.2 inverted _ _ r (Plan.ask_mem_map.1 hask)
  · rw [hvalue] at hask
    rcases field_unset_or_part hfield with ⟨_, _, s, _, _, _, hattr⟩ | hpart
    · simp [hattr, Plan.fail] at hask
    · exact asks_of_plan (hall.inside hpart) hask
  · rw [hnone] at hask
    exact (List.not_mem_nil hask).elim

end Asks

end Value

end Stencil
