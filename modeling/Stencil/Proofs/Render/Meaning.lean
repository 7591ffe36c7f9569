import Stencil.Proofs.Render.Walk
import Stencil.Proofs.Sink.Encoder
import Stencil.Proofs.Value.Hint

namespace Stencil

namespace Value

/-- The values that count as false. -/
inductive Falsy : Value → Prop where
  | absent : Falsy .absent
  | emptyText : Falsy (.text [])
  | emptySequence : Falsy (.sequence [])
  | emptyMapping : Falsy (.mapping [])
  | false : Falsy (.bool false)
  | zero {n : Number} (hzero : n.nonzero? = some false) : Falsy (.number n)
  | notPresent (inner : Value) : Falsy (.optional inner false)
  | failure (error : Text) : Falsy (.failure error)
  | exception (error : Text) : Falsy (.exception error)
  | custom {c : Content Value} (hanswer : c.truthy = .ok false) : Falsy (.custom c)
  | adapted {inner : Value} (hinner : Falsy inner) : Falsy (.adapted inner)

/-- The values that do not say whether they are true: a number that refuses to be compared with
zero, a sequence that is too long to be asked for its length, and a custom value that gives up. -/
inductive Undecided : Value → Prop where
  | number {n : Number} (hrefuse : n.nonzero? = none) : Undecided (.number n)
  | sequence {items : List Value} (hlength : maxLength < items.length) : Undecided (.sequence items)
  | custom {c : Content Value} {f : Fault} (hanswer : c.truthy = .error f) : Undecided (.custom c)
  | adapted {inner : Value} (hinner : Undecided inner) : Undecided (.adapted inner)

/-- Everything else counts as true. -/
def Truthy (v : Value) : Prop := ¬ v.Falsy ∧ ¬ v.Undecided

/-- A section over the value runs with the value itself, if at all. -/
def Single : Value → Prop
  | sequence _ | optional _ _ | success _ | adapted _ => False
  | _ => True

/-- The values that the body of a section runs with. -/
inductive Bodies : Value → List Value → Prop where
  | elements (items : List Value) : Bodies (.sequence items) items
  | present (inner : Value) : Bodies (.optional inner true) [inner]
  | success (inner : Value) : Bodies (.success inner) [inner]
  | itself {v : Value} (hsingle : v.Single) (htruthy : v.Truthy) : Bodies v [v]
  | none {v : Value} (hfalsy : v.Falsy) : Bodies v []
  | adapted {inner : Value} {vs : List Value} (hinner : Bodies inner vs) : Bodies (.adapted inner) vs

/-- The values that the body of an inverse section runs with. -/
inductive InverseBodies : Value → List Value → Prop where
  | itself {v : Value} (hfalsy : v.Falsy) : InverseBodies v [v]
  | none {v : Value} (htruthy : v.Truthy) : InverseBodies v []

/-- The field that a name leads to: the entry of a mapping with this key, or the
    first visible field of a record with this name and its hash. -/
inductive HasField : Value → FieldName → Field → Prop where
  | entry {entries : List (Key × Value)} {name : FieldName} {v : Value}
      (hkey : entries.lookup (.name name.text) = some v) : HasField (.mapping entries) name ⟨v, false⟩
  | visible {table : FieldTable} {attrs : List (Text × Value)} {name : FieldName} {s : FieldSpec}
      (hspec : table.specs.find? (fun s => s.hash == name.hash && s.name == name.text) = some s) :
      HasField (.record table attrs) name ⟨attr attrs s.attr, s.markdown⟩
  | adapted {inner : Value} {name : FieldName} {f : Field} (hinner : HasField inner name f) :
      HasField (.adapted inner) name f

/-- What the name of a section leads to: a dot to the value itself, every other
    name to a field of it. -/
inductive Names (v : Value) (name : FieldName) : Value → Prop where
  | itself (hdot : name.text = FieldName.dot) : Names v name v
  | field {f : Field} (hdot : name.text ≠ FieldName.dot) (hfield : v.HasField name f) :
      Names v name f.value

theorem inhabited_eq_false_iff (items : List Value) :
    inhabited items = .ok false ↔ items = [] := by
  unfold inhabited
  split
  · simp
  · rename_i hlength
    have hne : items ≠ [] := by
      rintro rfl
      exact hlength (Nat.zero_le _)
    simp [hne]

/-- A sequence is not asked for its length if that is more than a machine word holds. -/
theorem inhabited_eq_error_iff {items : List Value} :
    (∃ f, inhabited items = .error f) ↔ maxLength < items.length := by
  unfold inhabited
  split
  · rename_i hlength
    simp [Nat.not_lt.2 hlength]
  · rename_i hlength
    simp [Nat.lt_of_not_le hlength]

/-- The values that count as false are those that say so. -/
theorem falsy_iff (v : Value) : v.Falsy ↔ v.truthy = .ok false := by
  constructor
  · intro hfalsy
    induction hfalsy with
    | emptySequence => exact (inhabited_eq_false_iff []).2 rfl
    | zero hzero => simp [Value.truthy, hzero]
    | custom hanswer => exact hanswer
    | adapted hinner ih => exact ih
    | _ => rfl
  · intro htruthy
    induction v using Value.truthy.induct with
    | case1 => exact .absent
    | case2 b =>
      cases htruthy
      exact .false
    | case3 n b hb =>
      simp only [Value.truthy, hb, Except.ok.injEq] at htruthy
      exact .zero (htruthy ▸ hb)
    | case4 n hn => simp [Value.truthy, hn] at htruthy
    | case5 t =>
      cases t with
      | nil => exact .emptyText
      | cons c r => cases htruthy
    | case6 items => exact (inhabited_eq_false_iff items).1 htruthy ▸ .emptySequence
    | case7 entries =>
      cases entries with
      | nil => exact .emptyMapping
      | cons e es => cases htruthy
    | case8 inner present =>
      cases htruthy
      exact .notPresent inner
    | case9 inner => cases htruthy
    | case10 error => exact .failure error
    | case11 error => exact .exception error
    | case12 table attrs => cases htruthy
    | case13 c => exact .custom htruthy
    | case14 => cases htruthy
    | case15 inner ih => exact .adapted (ih htruthy)

/-- The values that do not say whether they are true are those that refuse the question. -/
theorem undecided_iff (v : Value) : v.Undecided ↔ ∃ f, v.truthy = .error f := by
  constructor
  · intro hundecided
    induction hundecided with
    | number hrefuse => simp [Value.truthy, hrefuse]
    | sequence hlength => exact inhabited_eq_error_iff.2 hlength
    | custom hanswer => exact ⟨_, hanswer⟩
    | adapted hinner ih => exact ih
  · rintro ⟨f, htruthy⟩
    induction v using Value.truthy.induct with
    | case4 n hn => exact .number hn
    | case3 n b hb => simp [Value.truthy, hb] at htruthy
    | case6 items => exact .sequence (inhabited_eq_error_iff.1 ⟨f, htruthy⟩)
    | case13 c => exact .custom htruthy
    | case15 inner ih => exact .adapted (ih htruthy)
    | _ => cases htruthy

/-- The truth of a value is known, or the question is refused. -/
theorem truthy_cases (v : Value) : (∃ b, v.truthy = .ok b) ∨ ∃ f, v.truthy = .error f := by
  cases v.truthy with
  | ok b => exact .inl ⟨b, rfl⟩
  | error f => exact .inr ⟨f, rfl⟩

/-- All others say that they are true. -/
theorem truthy_iff (v : Value) : v.Truthy ↔ v.truthy = .ok true := by
  rw [Truthy, falsy_iff, undecided_iff]
  rcases truthy_cases v with ⟨b, h⟩ | ⟨f, h⟩
  · cases b <;> simp [h]
  · simp [h]

theorem single_of_ne {v : Value} (hsequence : ∀ items, v ≠ .sequence items)
    (hoptional : ∀ inner present, v ≠ .optional inner present)
    (hsuccess : ∀ inner, v ≠ .success inner) (hadapted : ∀ inner, v ≠ .adapted inner) :
    v.Single := by
  cases v with
  | sequence items => exact hsequence items rfl
  | optional inner present => exact hoptional inner present rfl
  | success inner => exact hsuccess inner rfl
  | adapted inner => exact hadapted inner rfl
  | _ => trivial

theorem sectionItems_of_single {v : Value} (hsingle : v.Single) :
    v.sectionItems = v.truthy.map v.onceIf := by
  cases v with
  | sequence items => cases hsingle
  | optional inner present => cases hsingle
  | success inner => cases hsingle
  | adapted inner => cases hsingle
  | _ => rfl

/-- A false value gives a section nothing to run with, of whatever kind it is. -/
theorem Falsy.sectionItems {v : Value} (hfalsy : v.Falsy) : v.sectionItems = .ok [] := by
  induction hfalsy with
  | zero hzero => simp [Value.sectionItems, Value.truthy, hzero, Except.map, onceIf]
  | custom hanswer => simp [Value.sectionItems, Value.truthy, hanswer, Except.map, onceIf]
  | adapted hinner ih => exact ih
  | _ => rfl

/-- A section runs with the values of the rules. -/
theorem bodies_iff (v : Value) (vs : List Value) : v.Bodies vs ↔ v.sectionItems = .ok vs := by
  constructor
  · intro hbodies
    induction hbodies with
    | itself hsingle htruthy =>
      rw [sectionItems_of_single hsingle, (truthy_iff _).1 htruthy]
      rfl
    | none hfalsy => exact hfalsy.sectionItems
    | adapted hinner ih => exact ih
    | _ => rfl
  · intro hitems
    induction v using Value.sectionItems.induct with
    | case1 items =>
      cases hitems
      exact .elements _
    | case2 inner present =>
      cases present with
      | true =>
        cases hitems
        exact .present inner
      | false =>
        cases hitems
        exact .none (.notPresent inner)
    | case3 inner =>
      cases hitems
      exact .success inner
    | case4 inner ih => exact .adapted (ih hitems)
    | case5 v hsequence hoptional hsuccess hadapted =>
      have hsingle := single_of_ne hsequence hoptional hsuccess hadapted
      rw [sectionItems_of_single hsingle] at hitems
      rcases truthy_cases v with ⟨b, hb⟩ | ⟨f, hundecided⟩
      · cases b with
        | true =>
          simp only [hb, Except.map, onceIf, if_true, Except.ok.injEq] at hitems
          exact hitems ▸ .itself hsingle ((truthy_iff v).2 hb)
        | false =>
          simp only [hb, Except.map, onceIf, Bool.false_eq_true, if_false, Except.ok.injEq]
            at hitems
          exact hitems ▸ .none ((falsy_iff v).2 hb)
      · simp [hundecided, Except.map] at hitems

/-- And so does an inverse section. -/
theorem inverseBodies_iff (v : Value) (vs : List Value) :
    v.InverseBodies vs ↔ v.inverseItems = .ok vs := by
  constructor
  · rintro (hfalsy | htruthy)
    · simp [inverseItems, (falsy_iff v).1 hfalsy, Except.map, onceIf]
    · simp [inverseItems, (truthy_iff v).1 htruthy, Except.map, onceIf]
  · intro hitems
    rcases truthy_cases v with ⟨b, hb⟩ | ⟨f, hundecided⟩
    · cases b with
      | true =>
        simp only [inverseItems, hb, Except.map, onceIf, Bool.not_true, Bool.false_eq_true,
          if_false, Except.ok.injEq] at hitems
        exact hitems ▸ .none ((truthy_iff v).2 hb)
      | false =>
        simp only [inverseItems, hb, Except.map, onceIf, Bool.not_false, if_true,
          Except.ok.injEq] at hitems
        exact hitems ▸ .itself ((falsy_iff v).2 hb)
    · simp [inverseItems, hundecided, Except.map] at hitems

/-- The values that a section, inverse or not, runs with, by the rules. -/
def RunsWith (inverted : Bool) (v : Value) (vs : List Value) : Prop :=
  if inverted then v.InverseBodies vs else v.Bodies vs

theorem runsWith_iff (inverted : Bool) (v : Value) (vs : List Value) :
    v.RunsWith inverted vs ↔ v.items inverted = .ok vs := by
  cases inverted with
  | true => exact inverseBodies_iff v vs
  | false => exact bodies_iff v vs

/-- A section runs with some values, unless the value does not say whether it is true. -/
theorem runsWith_or_undecided (inverted : Bool) (v : Value) :
    (∃ vs, v.RunsWith inverted vs) ∨ v.Undecided := by
  rcases truthy_cases v with ⟨b, hb⟩ | htruthy
  · left
    cases inverted with
    | true => exact ⟨_, (inverseBodies_iff v _).2 (by rw [inverseItems, hb]; rfl)⟩
    | false =>
      induction v using Value.sectionItems.induct with
      | case4 inner ih =>
        obtain ⟨vs, hvs⟩ := ih hb
        exact ⟨vs, .adapted hvs⟩
      | case5 v hsequence hoptional hsuccess hadapted =>
        have hsingle := single_of_ne hsequence hoptional hsuccess hadapted
        exact ⟨_, (bodies_iff v _).2 (by rw [sectionItems_of_single hsingle, hb]; rfl)⟩
      | _ => exact ⟨_, (bodies_iff _ _).2 rfl⟩
  · exact .inr ((undecided_iff v).2 htruthy)

/-- A name leads to the field that the rules give: hashes and buckets make no difference. -/
theorem hasField_iff (v : Value) (name : FieldName) (f : Field) :
    v.HasField name f ↔ v.field? name.hash name.text = some f := by
  constructor
  · intro hfield
    induction hfield with
    | entry hkey => simp [field?, hkey]
    | visible hspec => simp [field?, FieldTable.lookup_eq, hspec]
    | adapted hinner ih => exact ih
  · intro hfield
    induction v using Value.field?.induct with
    | case1 entries =>
      obtain ⟨v, hkey, rfl⟩ := Option.map_eq_some_iff.1 hfield
      exact .entry hkey
    | case2 table attrs =>
      obtain ⟨s, hspec, rfl⟩ := Option.map_eq_some_iff.1 hfield
      rw [FieldTable.lookup_eq] at hspec
      exact .visible hspec
    | case3 inner ih => exact .adapted (ih hfield)
    | case4 v hmapping hrecord hadapted => simp [field?] at hfield

/-- A custom value has no fields but those that it answers for. -/
theorem not_hasField_of_own {v : Value} {c : Content Value} (hown : v.own? = some c)
    {name : FieldName} {f : Field} : ¬ v.HasField name f := by
  intro hfield
  induction hfield with
  | adapted hinner ih => exact ih hown
  | _ => cases hown

theorem tagPlan_of_itself {name : FieldName} (hdot : name.text = FieldName.dot)
    (convert : Conversion) (inverted : Bool) (v : Value) :
    v.tagPlan convert inverted name = v.plan convert inverted := by
  simp [tagPlan, FieldName.isDot, hdot]

/-- A section over a name is one over what the name leads to. -/
theorem tagPlan_of_names {v w : Value} {name : FieldName} (hnames : v.Names name w)
    (convert : Conversion) (inverted : Bool) :
    v.tagPlan convert inverted name = w.plan convert inverted := by
  cases hnames with
  | itself hdot => exact tagPlan_of_itself hdot convert inverted v
  | field hdot hfield =>
    cases hown : v.own? with
    | some c => exact absurd hfield (not_hasField_of_own hown)
    | none =>
      simp [tagPlan, FieldName.isDot, hdot, fieldPlan, hown, (hasField_iff v name _).1 hfield]

/-- A custom value answers for a section over one of its fields. -/
theorem tagPlan_of_ownField {v : Value} {c : Content Value} (hown : v.own? = some c)
    {name : FieldName} (hdot : name.text ≠ FieldName.dot) (convert : Conversion) (inverted : Bool) :
    v.tagPlan convert inverted name =
      resolve c (c.fieldNested convert inverted name.hash name.text) := by
  simp [tagPlan, FieldName.isDot, hdot, fieldPlan, hown]

/-- A name that leads nowhere runs no section. -/
theorem tagPlan_of_nowhere {v : Value} (hplain : v.own? = none) {name : FieldName}
    (hnames : ∀ w, ¬ v.Names name w) (convert : Conversion) (inverted : Bool) :
    v.tagPlan convert inverted name = .done := by
  have hdot : name.text ≠ FieldName.dot := fun hdot => hnames v (.itself hdot)
  have hnone : v.field? name.hash name.text = none := by
    rw [Option.eq_none_iff_forall_ne_some]
    exact fun f hf => hnames f.value (.field hdot ((hasField_iff v name f).2 hf))
  simp [tagPlan, FieldName.isDot, hdot, fieldPlan, hplain, hnone]

theorem plan_of_own {v : Value} {c : Content Value} (hown : v.own? = some c) (convert : Conversion)
    (inverted : Bool) : v.plan convert inverted = resolve c (c.nested convert inverted) := by
  simp [plan, hown]

/-- A value without answers of its own runs a section with the values of the rules. -/
theorem plan_of_runsWith {v : Value} (hplain : v.own? = none) {inverted : Bool} {vs : List Value}
    (hruns : v.RunsWith inverted vs) (convert : Conversion) :
    v.plan convert inverted = .bodies vs := by
  simp [plan, hplain, (runsWith_iff inverted v vs).1 hruns, Plan.ofItems]

end Value

namespace Node

mutual

/-- What one node asks for with a value, by the rules. Nothing in them mentions blocks, indices,
hash buckets or counts. -/
inductive Renders (convert : Conversion) : Node → Value → Script → Prop where
  | literal (t : Text) (v : Value) : Renders convert (.literal t) v (.ask (.asIs t))
  | itself {escaped : Bool} {name : FieldName} {v : Value} (hdot : name.text = FieldName.dot) :
      Renders convert (.print escaped name) v (v.scriptAs convert (Mode.ofTag escaped))
  | field {escaped : Bool} {name : FieldName} {v : Value} {f : Value.Field}
      (hdot : name.text ≠ FieldName.dot) (hfield : v.HasField name f) :
      Renders convert (.print escaped name) v
        (f.value.scriptAs convert (if f.markdown then .markup else Mode.ofTag escaped))
  | miss {escaped : Bool} {name : FieldName} {v : Value} (hdot : name.text ≠ FieldName.dot)
      (hplain : v.own? = none) (hmiss : ∀ f, ¬ v.HasField name f) :
      Renders convert (.print escaped name) v .done
  | nested {inverted : Bool} {name : FieldName} {body : List Node} {v w : Value} {vs : List Value}
      {a : Script} (hnames : v.Names name w) (hplain : w.own? = none)
      (hbodies : w.RunsWith inverted vs) (hrenders : RendersSteps convert body (vs.map .body) a) :
      Renders convert (.nested inverted name body) v a
  | nowhere {inverted : Bool} {name : FieldName} {body : List Node} {v : Value}
      (hplain : v.own? = none) (hnames : ∀ w, ¬ v.Names name w) :
      Renders convert (.nested inverted name body) v .done
  /-- A custom value answers for its fields itself. -/
  | ownField {escaped : Bool} {name : FieldName} {v : Value} {c : Content Value}
      (hdot : name.text ≠ FieldName.dot) (hown : v.own? = some c) :
      Renders convert (.print escaped name) v (c.fieldShown convert escaped name.hash name.text)
  /-- A custom value answers for a section over it itself. -/
  | ownNested {inverted : Bool} {name : FieldName} {body : List Node} {v w : Value}
      {c : Content Value} {a : Script} (hnames : v.Names name w) (hown : w.own? = some c)
      (hrenders : RendersSteps convert body (Value.resolve c (c.nested convert inverted)).steps a) :
      Renders convert (.nested inverted name body) v
        (a.andThen ⟨[], (c.nested convert inverted).fault⟩)
  /-- And for a section over one of its fields. -/
  | ownFieldNested {inverted : Bool} {name : FieldName} {body : List Node} {v : Value}
      {c : Content Value} {a : Script} (hdot : name.text ≠ FieldName.dot) (hown : v.own? = some c)
      (hrenders : RendersSteps convert body
        (Value.resolve c (c.fieldNested convert inverted name.hash name.text)).steps a) :
      Renders convert (.nested inverted name body) v
        (a.andThen ⟨[], (c.fieldNested convert inverted name.hash name.text).fault⟩)

/-- Nodes one after another with one value. -/
inductive RendersAll (convert : Conversion) : List Node → Value → Script → Prop where
  | nil (v : Value) : RendersAll convert [] v .done
  | cons {n : Node} {ns : List Node} {v : Value} {a b : Script} (hhead : Renders convert n v a)
      (htail : RendersAll convert ns v b) : RendersAll convert (n :: ns) v (a.andThen b)

/-- The steps of a section one after another. -/
inductive RendersSteps (convert : Conversion) : List Node → List (Step Value) → Script → Prop where
  | nil (body : List Node) : RendersSteps convert body [] .done
  | ask {body : List Node} {r : Request} {steps : List (Step Value)} {b : Script}
      (htail : RendersSteps convert body steps b) :
      RendersSteps convert body (.ask r :: steps) ((Script.ask r).andThen b)
  | body {body : List Node} {v : Value} {steps : List (Step Value)} {a b : Script}
      (hhead : RendersAll convert body v a) (htail : RendersSteps convert body steps b) :
      RendersSteps convert body (.body v :: steps) (a.andThen b)

end

/-- The node comes to a section over a value that does not say whether it is true, so that there are
no values for it to run with. -/
inductive Stalls (convert : Conversion) : Node → Value → Prop where
  | here {inverted : Bool} {name : FieldName} {body : List Node} {v w : Value}
      (hnames : v.Names name w) (hplain : w.own? = none) (hundecided : w.Undecided)
      (hnone : ∀ vs, ¬ w.RunsWith inverted vs) : Stalls convert (.nested inverted name body) v
  | inside {inverted : Bool} {name : FieldName} {body : List Node} {n : Node} {v w : Value}
      (hn : n ∈ body) (hvalue : w ∈ (v.tagPlan convert inverted name).values)
      (hstalls : Stalls convert n w) : Stalls convert (.nested inverted name body) v

/-- The rules give a variable tag one script with each value. -/
theorem renders_print_iff (convert : Conversion) (escaped : Bool) (name : FieldName) (v : Value)
    (a : Script) :
    Renders convert (.print escaped name) v a ↔ a = v.scriptTag convert escaped name := by
  have hmode := Value.hasField_iff v name
  by_cases hdot : name.text = FieldName.dot
  · simp only [Value.scriptTag, FieldName.isDot, hdot, beq_self_eq_true, if_true]
    constructor
    · intro hrenders
      cases hrenders with
      | itself _ => rfl
      | field hne _ => exact absurd hdot hne
      | ownField hne _ => exact absurd hdot hne
      | miss hne _ _ => exact absurd hdot hne
    · rintro rfl
      exact .itself hdot
  · simp only [Value.scriptTag, FieldName.isDot, beq_eq_false_iff_ne.2 hdot, Bool.false_eq_true,
      if_false, Value.scriptField]
    constructor
    · intro hrenders
      cases hrenders with
      | itself hself => exact absurd hself hdot
      | field _ hfield =>
        cases hown : v.own? with
        | some c => exact absurd hfield (Value.not_hasField_of_own hown)
        | none => simp [(hmode _).1 hfield]
      | ownField _ hown => simp [hown]
      | miss _ hplain hmiss =>
        have hnone : v.field? name.hash name.text = none := by
          rw [Option.eq_none_iff_forall_ne_some]
          exact fun f hf => hmiss f ((hmode f).2 hf)
        simp [hplain, hnone]
    · rintro rfl
      cases hown : v.own? with
      | some c => exact .ownField hdot hown
      | none =>
        cases hfield : v.field? name.hash name.text with
        | none => exact .miss hdot hown fun f hf => by simp [(hmode f).1 hf] at hfield
        | some f => exact .field hdot ((hmode f).2 hfield)

/-- What the rules give for the steps of a section is what they come to, if this holds of the
body. -/
theorem eq_each_of_rendersSteps {convert : Conversion} {body : List Node}
    (hbody : ∀ v a, RendersAll convert body v a → a = scriptAll convert body v)
    {steps : List (Step Value)} {a : Script} (hrenders : RendersSteps convert body steps a) :
    a = .each (Step.script (scriptAll convert body)) steps := by
  induction steps generalizing a with
  | nil =>
    cases hrenders
    rfl
  | cons step steps ih =>
    cases hrenders with
    | ask htail => rw [ih htail, Script.each, Step.script]
    | body hhead htail => rw [hbody _ _ hhead, ih htail, Script.each, Step.script]

/-- What a section comes to is settled by what its name leads to, and by the plan of that. -/
theorem eq_script_of_renders_nested {convert : Conversion} {body : List Node}
    (hbody : ∀ v a, RendersAll convert body v a → a = scriptAll convert body v) {inverted : Bool}
    {name : FieldName} {v : Value} {a : Script}
    (hrenders : Renders convert (.nested inverted name body) v a) :
    a = (Node.nested inverted name body).script convert v := by
  rw [Node.script]
  cases hrenders with
  | nested hnames hplain hbodies hrenders =>
    rw [Value.tagPlan_of_names hnames, Value.plan_of_runsWith hplain hbodies,
      eq_each_of_rendersSteps hbody hrenders]
    exact (Script.andThen_done _).symm
  | nowhere hplain hnames => rw [Value.tagPlan_of_nowhere hplain hnames, Plan.script_done]
  | ownNested hnames hown hrenders =>
    rw [Value.tagPlan_of_names hnames, Value.plan_of_own hown,
      eq_each_of_rendersSteps hbody hrenders]
    rfl
  | ownFieldNested hdot hown hrenders =>
    rw [Value.tagPlan_of_ownField hown hdot, eq_each_of_rendersSteps hbody hrenders]
    rfl

/-- What the rules give for a list of nodes is what the evaluator computes, so they never give two
answers. -/
theorem eq_scriptAll_of_rendersAll (convert : Conversion) (ns : List Node) (v : Value) (a : Script)
    (hrenders : RendersAll convert ns v a) : a = scriptAll convert ns v := by
  match ns with
  | [] =>
    cases hrenders
    rfl
  | n :: ns =>
    have hnode : ∀ a, Renders convert n v a → a = n.script convert v := by
      match n with
      | .literal t =>
        rintro a ⟨⟩
        rfl
      | .print escaped name => exact fun a => (renders_print_iff convert escaped name v a).1
      | .nested inverted name body =>
        exact fun a => eq_script_of_renders_nested (eq_scriptAll_of_rendersAll convert body)
    cases hrenders with
    | cons hhead htail =>
      rw [hnode _ hhead, eq_scriptAll_of_rendersAll convert ns v _ htail, scriptAll]

/-- The rules give something for the steps of a section, if they do for the body with each of their
values. -/
theorem exists_rendersSteps {convert : Conversion} {body : List Node} {steps : List (Step Value)}
    (hbody : ∀ v ∈ steps.filterMap Step.value?, ∃ a, RendersAll convert body v a) :
    ∃ a, RendersSteps convert body steps a := by
  induction steps with
  | nil => exact ⟨_, .nil body⟩
  | cons step steps ih =>
    cases step with
    | ask r =>
      obtain ⟨b, htail⟩ := ih hbody
      exact ⟨_, .ask htail⟩
    | body v =>
      have hvalues : v :: steps.filterMap Step.value? = (Step.body v :: steps).filterMap Step.value? :=
        rfl
      rw [← hvalues, List.forall_mem_cons] at hbody
      obtain ⟨a, hhead⟩ := hbody.1
      obtain ⟨b, htail⟩ := ih hbody.2
      exact ⟨_, .body hhead htail⟩

/-- The rules give something for a section, if they do for its body with each value that it runs
with, and say with which values it does. -/
theorem exists_renders_nested {convert : Conversion} {body : List Node} {inverted : Bool}
    {name : FieldName} {v : Value}
    (hbody : ∀ w ∈ (v.tagPlan convert inverted name).values, ∃ a, RendersAll convert body w a)
    (hruns : ∀ w, v.Names name w → w.own? = none → ∃ vs, w.RunsWith inverted vs) :
    ∃ a, Renders convert (.nested inverted name body) v a := by
  have hsteps : ∀ {p : Plan Value}, v.tagPlan convert inverted name = p →
      ∃ a, RendersSteps convert body p.steps a := by
    rintro p rfl
    exact exists_rendersSteps hbody
  by_cases hsome : ∃ w, v.Names name w
  · obtain ⟨w, hnames⟩ := hsome
    have htag := Value.tagPlan_of_names hnames convert inverted
    cases hown : w.own? with
    | some c =>
      obtain ⟨a, hrenders⟩ := hsteps (htag.trans (Value.plan_of_own hown convert inverted))
      exact ⟨_, .ownNested hnames hown hrenders⟩
    | none =>
      obtain ⟨vs, hvs⟩ := hruns w hnames hown
      obtain ⟨a, hrenders⟩ := hsteps (htag.trans (Value.plan_of_runsWith hown hvs convert))
      exact ⟨_, .nested hnames hown hvs hrenders⟩
  · have hnames : ∀ w, ¬ v.Names name w := fun w hw => hsome ⟨w, hw⟩
    cases hown : v.own? with
    | none => exact ⟨_, .nowhere hown hnames⟩
    | some c =>
      have hdot : name.text ≠ FieldName.dot := fun hdot => hnames v (.itself hdot)
      obtain ⟨a, hrenders⟩ :=
        hsteps (Value.tagPlan_of_ownField hown hdot convert inverted)
      exact ⟨_, .ownFieldNested hdot hown hrenders⟩

/-- The rules give something for each list of nodes with every value, unless one of the nodes comes
to a section over a value that does not say whether it is true. -/
theorem exists_or_stalls (convert : Conversion) (ns : List Node) (v : Value) :
    (∃ a, RendersAll convert ns v a) ∨ ∃ n ∈ ns, n.Stalls convert v := by
  match ns with
  | [] => exact .inl ⟨_, .nil v⟩
  | n :: ns =>
    have hnode : (∃ a, Renders convert n v a) ∨ n.Stalls convert v := by
      match n with
      | .literal t => exact .inl ⟨_, .literal t v⟩
      | .print escaped name =>
        exact .inl ⟨_, (renders_print_iff convert escaped name v _).2 rfl⟩
      | .nested inverted name body =>
        by_cases hstalls : (Node.nested inverted name body).Stalls convert v
        · exact .inr hstalls
        · refine .inl (exists_renders_nested (fun w hw => ?_) fun w hnames hplain => ?_)
          · exact (exists_or_stalls convert body w).resolve_right
              fun ⟨n, hn, hinside⟩ => hstalls (.inside hn hw hinside)
          · by_contra hnone
            have hundecided := (w.runsWith_or_undecided inverted).resolve_left hnone
            exact hstalls (.here hnames hplain hundecided fun vs hvs => hnone ⟨vs, hvs⟩)
    rcases hnode with ⟨a, hhead⟩ | hstalls
    · rcases exists_or_stalls convert ns v with ⟨b, htail⟩ | ⟨m, hm, hstalls⟩
      · exact .inl ⟨_, .cons hhead htail⟩
      · exact .inr ⟨m, List.mem_cons_of_mem n hm, hstalls⟩
    · exact .inr ⟨n, List.mem_cons_self, hstalls⟩

end Node

namespace Template

/-- The template renders as the rules say for a tree. Where they say what a value comes to, every
encoder is told the capacity of the value and is asked for this, up to its first failure, and
nothing else. They say it of every value, unless the tree comes to a section over one that does not
say whether it is true. And only what refuses to be counted leaves a value without a capacity. -/
structure Means (t : Template) (convert : Conversion) (nodes : List Node) : Prop where
  renders : ∀ {v a}, Node.RendersAll convert nodes v a → ∀ {n}, t.capacity v = .ok n →
    ∀ {σ : Type} (e : Encoder σ) (s : σ),
      t.renderInto convert v e s = a.handTo e (e.reserve n s)
  determined : ∀ {v a b}, Node.RendersAll convert nodes v a → Node.RendersAll convert nodes v b →
    a = b
  total : ∀ v, (∃ a, Node.RendersAll convert nodes v a) ∨ ∃ n ∈ nodes, n.Stalls convert v
  counted : ∀ {v f}, t.capacity v = .error f →
    ∃ w, Relation.ReflTransGen Value.Part w v ∧ w.Uncounted f

/-- The blocks of a source are rendered as its parse tree means: an encoder is asked for the same in
the same order, and sees the same end. -/
theorem compile_means_parse {hasher : Hasher} {source : Text} {t : Template}
    (hcompile : compileWith hasher source = .ok t) (convert : Conversion) :
    ∃ nodes, Node.parse hasher source = .ok nodes ∧ t.Means convert nodes := by
  cases hparse : Node.parse hasher source with
  | error e =>
    rw [compileWith_eq_parse, hparse] at hcompile
    cases hcompile
  | ok nodes =>
    have hsound := Node.eq_scriptAll_of_rendersAll convert nodes
    refine ⟨nodes, rfl, ?_, ?_, Node.exists_or_stalls convert nodes, Value.exists_uncounted⟩
    · intro v a hrenders n hcapacity σ e s
      rw [renderInto_of_capacity hcapacity, script_eq_scriptAll hcompile hparse,
        hsound v a hrenders]
    · intro v a b ha hb
      rw [hsound v a ha, hsound v b hb]

/-- A section between literal texts, with the current value in its body. -/
theorem compile_means_parse_nested :
    compileWith (Hasher.constant 0) (Text.of "a\x7b\x7b#x\x7d\x7d<\x7b\x7b.\x7d\x7d>\x7b\x7b/x\x7d\x7db") =
        .ok ⟨[⟨Text.of "a", .opening false ⟨Text.of "x", 0⟩ 2⟩,
          ⟨Text.of "<", .print true ⟨Text.of ".", 0⟩⟩, ⟨Text.of ">", .closing⟩,
          ⟨Text.of "b", .tail⟩]⟩ ∧
      ∃ nodes, Node.parse (Hasher.constant 0)
          (Text.of "a\x7b\x7b#x\x7d\x7d<\x7b\x7b.\x7d\x7d>\x7b\x7b/x\x7d\x7db") = .ok nodes ∧
        Means ⟨[⟨Text.of "a", .opening false ⟨Text.of "x", 0⟩ 2⟩,
          ⟨Text.of "<", .print true ⟨Text.of ".", 0⟩⟩, ⟨Text.of ">", .closing⟩,
          ⟨Text.of "b", .tail⟩]⟩ .ok nodes :=
  ⟨by decide, compile_means_parse (by decide) .ok⟩

/-- A custom value that answers for its fields itself shows a name that leads to no field. -/
theorem render_of_own_answer :
    let echo (hash : Hash) (name : Text) : Text := name ++ Text.of ":" ++ Text.ofInt hash
    let v : Value := .custom
      { fieldShown := fun _ _ hash name => .ask (.escaped (echo hash name)) }
    ∃ t, compile (Text.of "\x7b\x7bx\x7d\x7d") = .ok t ∧
      (∀ hash f, ¬ v.HasField ⟨Text.of "x", hash⟩ f) ∧
      t.render .ok v = .write (Text.of "x:5717441744405258058") := by
  refine ⟨⟨[⟨[], .print true ⟨Text.of "x", 5717441744405258058⟩⟩]⟩, by decide +kernel, ?_, ?_⟩
  · intro hash f hfield
    cases hfield
  · decide +kernel

end Template

end Stencil
