import Stencil.Proofs.Record.Table
import Stencil.Proofs.Render.Adapters
import Stencil.Proofs.Render.Faults
import Stencil.Proofs.Render.Meaning

namespace Stencil

/-- Of what a section asks, the content says itself only whether it is true. What it shows and
counts is its own. -/
structure Content.Inherits {α : Type} (c : Content α) : Prop where
  truthy : ∃ b, c.truthy = .ok b
  nested : c.nested = ({ truthy := c.truthy } : Content α).nested
  fieldNested : c.fieldNested = ({ truthy := c.truthy } : Content α).fieldNested

namespace Value

variable {v : Value} {convert : Conversion}

/-- A decimal that refuses to be compared with zero, perhaps behind adapters. -/
def Signalling (v : Value) : Prop :=
  ∃ negative payload, v.core = .number (.decimal (.nan negative true payload))

/-- A custom value, perhaps behind adapters, leaves its sections to its truth. -/
def Inherits (v : Value) : Prop := ∀ c, v.own? = some c → c.Inherits

/-- The value has one section and one inverse one, as every value has that can say whether it is
true. -/
structure Ordinary (v : Value) : Prop where
  quiet : ¬ v.Signalling
  inherits : v.Inherits

theorem truthy_of_core (v : Value) : v.core.truthy = v.truthy := (sameAnswers_core v).truthy

theorem own_of_sequence {items : List Value} (hsequence : v.core = .sequence items) :
    v.own? = none := by
  rw [← (sameAnswers_core v).own, hsequence]
  rfl

theorem truthy_of_own {c : Content Value} (hown : v.own? = some c) : v.truthy = c.truthy := by
  rw [← truthy_of_core, core_of_own hown, truthy]

theorem truthy_of_sequence {items : List Value} (hsequence : v.core = .sequence items) :
    v.truthy = inhabited items := by
  rw [← truthy_of_core, hsequence, truthy]

/-- Only a sequence that is too long does not say whether it is true. -/
theorem Ordinary.overlong_of_undecided (hordinary : v.Ordinary) (hundecided : v.Undecided) :
    ∃ items, v.core = .sequence items ∧ maxLength < items.length := by
  induction hundecided with
  | number hrefuse =>
    have hstops : (number _).Stops .ok .undefinedTruth := stops_of_nonzero? hrefuse
    cases hstops with
    | signalling negative payload => exact absurd ⟨negative, payload, rfl⟩ hordinary.quiet
  | @sequence items hlength => exact ⟨items, rfl, hlength⟩
  | custom hanswer =>
    obtain ⟨b, hb⟩ := (hordinary.inherits _ rfl).truthy
    rw [hanswer] at hb
    cases hb
  | adapted hinner ih => exact ih ⟨hordinary.quiet, hordinary.inherits⟩

/-- An ordinary value that is no sequence says whether it is true. -/
theorem Ordinary.truthy_of_single (hordinary : v.Ordinary)
    (hsingle : ∀ items, v.core ≠ .sequence items) : ∃ b, v.truthy = .ok b := by
  rcases truthy_cases v with htruthy | hundecided
  · exact htruthy
  · obtain ⟨items, hitems, _⟩ := hordinary.overlong_of_undecided ((undecided_iff v).2 hundecided)
    exact absurd hitems (hsingle items)

/-- What a section over the value goes on with, if it inherits its sections. -/
theorem Inherits.resolve_nested (hinherits : v.Inherits) {c : Content Value}
    (hown : v.own? = some c) {b : Bool} (htruthy : v.truthy = .ok b) (inverted : Bool) :
    resolve c (c.nested convert inverted) = .bodies (if b = inverted then [] else [custom c]) := by
  rw [truthy_of_own hown] at htruthy
  rw [(hinherits c hown).nested, htruthy]
  cases b <;> cases inverted <;> rfl

/-- What a section over a value that is no sequence hands on: what an optional value or a success
holds, and its adapter for every other value. -/
def handed : Value → Value
  | optional inner _ => inner
  | success inner => inner
  | adapted inner => inner.handed
  | v => v.adapter

theorem adapter_of_own {c : Content Value} (hown : v.own? = some c) : v.adapter = custom c := by
  simp only [adapter, hown]

theorem handed_of_own {c : Content Value} (hown : v.own? = some c) : v.handed = custom c := by
  induction v using handed.induct with
  | case1 | case2 => cases hown
  | case3 inner ih => exact ih hown
  | case4 v hoptional hsuccess hadapted =>
    rw [handed.eq_4 v hoptional hsuccess hadapted, adapter_of_own hown]

/-- Unless it is a sequence, a value runs a section once if it is true, with what it hands on. -/
theorem sectionHands_of_single (hsingle : ∀ items, v.core ≠ .sequence items) :
    v.sectionHands = v.truthy.map v.handed.onceIf := by
  induction v using sectionHands.induct with
  | case1 items => exact absurd rfl (hsingle items)
  | case2 inner present => rfl
  | case3 inner => rfl
  | case4 inner ih => exact ih hsingle
  | case5 v hsequence hoptional hsuccess hadapted =>
    rw [sectionHands.eq_5 v hsequence hoptional hsuccess hadapted,
      handed.eq_4 v hoptional hsuccess hadapted]

/-- A value that leaves its sections to the base class runs a section once if it is true. -/
theorem handing_single (hinherits : v.Inherits) (hsingle : ∀ items, v.core ≠ .sequence items)
    {b : Bool} (htruthy : v.truthy = .ok b) :
    v.handing convert false = .bodies (v.handed.onceIf b) := by
  unfold handing
  cases hown : v.own? with
  | some c =>
    simp only [hinherits.resolve_nested hown htruthy, handed_of_own hown]
    cases b <;> rfl
  | none =>
    simp only [Bool.false_eq_true, if_false, sectionHands_of_single hsingle, htruthy]
    rfl

/-- And an inverse section once, with itself, if it is false. -/
theorem handing_inverse (hinherits : v.Inherits) {b : Bool} (htruthy : v.truthy = .ok b) :
    v.handing convert true = .bodies (v.adapter.onceIf !b) := by
  unfold handing
  cases hown : v.own? with
  | some c =>
    simp only [hinherits.resolve_nested hown htruthy, adapter_of_own hown]
    cases b <;> rfl
  | none =>
    simp only [if_true, inverseHands, htruthy]
    rfl

/-- A sequence runs a section with its elements, however many they are. -/
theorem handing_sequence {items : List Value} (hsequence : v.core = .sequence items) :
    v.handing convert false = .bodies items := by
  have hhands : v.sectionHands = .ok items := by
    rw [← sectionHands_core, hsequence, sectionHands]
  simp only [handing, own_of_sequence hsequence, Bool.false_eq_true, if_false, hhands, Plan.ofItems]

/-- The inverse section over a sequence that is too long for its length to be asked for fails. -/
theorem handing_overlong {items : List Value} (hsequence : v.core = .sequence items)
    (hlong : ¬ items.length ≤ maxLength) : v.handing convert true = .fail .overlong := by
  have htruthy : v.truthy = .error .overlong := by
    rw [truthy_of_sequence hsequence, inhabited, if_neg hlong]
  simp only [handing, own_of_sequence hsequence, if_true, inverseHands, htruthy]
  rfl

/-- A section and an inverse one, which run a body as `run` does, choose by the truth of a value. -/
structure Chooses (v : Value) (run : (inverted : Bool) → (Value → Script) → Script) : Prop where
  /-- Over no sequence one of the two runs the body, once, and the other one does not run it. -/
  once : (∀ items, v.core ≠ .sequence items) → ∃ b, v.truthy = .ok b ∧
    ∀ body, run (!b) body = body (if b then v.handed else v.adapter) ∧ run b body = .done
  /-- Over a sequence the section runs it with the elements in order, and the inverse section runs
  it once if there are none. If there are more than can be counted, it stops there. -/
  elements : ∀ items, v.core = .sequence items →
    ∀ body, run false body = .each body items ∧
      run true body = if items = [] then body v.adapter
        else if items.length ≤ maxLength then .done else .fail .overlong

theorem script_bodies_onceIf (body : Value → Script) (v : Value) (b : Bool) :
    (Plan.bodies (v.onceIf b)).script body = if b then body v else .done := by
  cases b with
  | true =>
    rw [Plan.script_bodies]
    exact Script.andThen_done (body v)
  | false => rfl

/-- Of the two calls exactly one runs its body, and the truth of the value alone says which. -/
theorem Ordinary.chooses (hordinary : v.Ordinary) :
    v.Chooses fun inverted body => v.runSection convert inverted body := by
  constructor
  · intro hsingle
    obtain ⟨b, htruthy⟩ := hordinary.truthy_of_single hsingle
    refine ⟨b, htruthy, fun body => ?_⟩
    have hsection : v.runSection convert false body = if b then body v.handed else .done := by
      rw [runSection, handing_single hordinary.inherits hsingle htruthy, script_bodies_onceIf]
    have hinverse : v.runSection convert true body = if !b then body v.adapter else .done := by
      rw [runSection, handing_inverse hordinary.inherits htruthy, script_bodies_onceIf]
    cases b with
    | true => exact ⟨hsection, hinverse⟩
    | false => exact ⟨hinverse, hsection⟩
  · intro items hsequence body
    refine ⟨by rw [runSection, handing_sequence hsequence, Plan.script_bodies], ?_⟩
    by_cases hlength : items.length ≤ maxLength
    · have htruthy : v.truthy = .ok (!items.isEmpty) := by
        rw [truthy_of_sequence hsequence, inhabited_of_le hlength]
      rw [runSection, handing_inverse hordinary.inherits htruthy, script_bodies_onceIf]
      rw [if_pos hlength]
      cases items <;> simp
    · have hne : items ≠ [] := by
        rintro rfl
        exact hlength (Nat.zero_le _)
      rw [runSection, handing_overlong hsequence hlength, if_neg hne, if_neg hlength]
      rfl

/-- A section over a field that is there is one over its value. -/
theorem runFieldSection_of_hasField {name : FieldName} {f : Field} (hfield : v.HasField name f)
    (inverted : Bool) (body : Value → Script) :
    v.runFieldSection convert inverted name body = f.value.runSection convert inverted body := by
  cases hown : v.own? with
  | some c => exact absurd hfield (not_hasField_of_own hown)
  | none =>
    simp only [runFieldSection, fieldHanding, hown, (hasField_iff v name f).1 hfield, runSection]

/-- A section over a field that is missing or hidden runs no body. -/
theorem runFieldSection_of_missing (hinherits : v.Inherits) {name : FieldName}
    (hmissing : ∀ f, ¬ v.HasField name f) (inverted : Bool) (body : Value → Script) :
    v.runFieldSection convert inverted name body = .done := by
  have hnone : v.field? name.hash name.text = none := by
    rw [Option.eq_none_iff_forall_ne_some]
    exact fun f hf => hmissing f ((hasField_iff v name f).2 hf)
  unfold runFieldSection fieldHanding
  cases hown : v.own? with
  | some c =>
    simp only [(hinherits c hown).fieldNested]
    rfl
  | none =>
    simp only [hnone]
    rfl

/-- A name whose declared fields are all hidden, or that no field is declared for, leads to none. -/
theorem not_hasField_of_hidden {hasher : Hasher} {type : Text} {fields : List FieldDecl}
    {table : FieldTable} (hbuild : RecordType.buildTable hasher type (some fields) = .ok table)
    {name : FieldName} (hhidden : ∀ f ∈ fields, f.templateName = name.text → f.skip = true)
    (attrs : List (Text × Value)) (g : Field) : ¬ (record table attrs).HasField name g := by
  intro hfield
  obtain ⟨_, ⟨⟩, hshows⟩ := RecordType.shows_of_buildTable hbuild
  cases hfield with
  | @visible _ _ _ s hspec =>
    have hfound := List.find?_some hspec
    simp only [Bool.and_eq_true, beq_iff_eq] at hfound
    obtain ⟨f, hf, hshown, htemplate, -⟩ := hshows.declared (List.mem_of_find?_eq_some hspec)
    have hskip := hhidden f hf (htemplate.trans hfound.2)
    rw [hshown] at hskip
    cases hskip

/-- A declared field that is not hidden is what its name in templates leads to. -/
theorem hasField_of_shown {hasher : Hasher} {type : Text} {fields : List FieldDecl}
    {table : FieldTable} (hbuild : RecordType.buildTable hasher type (some fields) = .ok table)
    {name : FieldName} (hhash : hasher name.text = some name.hash) {f : FieldDecl} (hf : f ∈ fields)
    (hskip : f.skip = false) (htemplate : f.templateName = name.text)
    (attrs : List (Text × Value)) :
    (record table attrs).HasField name ⟨attr attrs f.name, f.markdown⟩ := by
  obtain ⟨_, ⟨⟩, hshows⟩ := RecordType.shows_of_buildTable hbuild
  have hwell := RecordType.wellHashed_of_buildTable hbuild
  obtain ⟨s, hs, hname, hattr, hmarkdown⟩ := hshows.listed hf hskip
  have hlookup : table.lookup name.hash name.text = some s := by
    rw [hwell.lookup_eq hhash]
    exact hwell.find_name hs (hname.trans htemplate)
  rw [hasField_iff, field?, hlookup, ← hattr, ← hmarkdown]
  rfl

/-- A section over a true value runs its body at least once. -/
theorem bodies_of_truthy (htruthy : v.truthy = .ok true) : ∃ ws, ws ≠ [] ∧ v.Bodies ws := by
  simp only [bodies_iff]
  induction v using sectionItems.induct with
  | case1 items =>
    cases items with
    | nil => cases htruthy
    | cons w ws => exact ⟨w :: ws, by simp, rfl⟩
  | case2 inner present =>
    cases htruthy
    exact ⟨[inner], by simp, rfl⟩
  | case3 inner => exact ⟨[inner], by simp, rfl⟩
  | case4 inner ih => exact ih htruthy
  | case5 v hsequence hoptional hsuccess hadapted =>
    refine ⟨[v], by simp, ?_⟩
    rw [sectionItems.eq_5 v hsequence hoptional hsuccess hadapted, htruthy]
    rfl

/-- A section over a value that is true runs its body at least once, and the inverse one does
not. -/
theorem Inherits.plan_of_true (hinherits : v.Inherits) (htruthy : v.truthy = .ok true) :
    ∃ ws, ws ≠ [] ∧ v.Bodies ws ∧ v.plan convert false = .bodies ws ∧
      v.plan convert true = .bodies [] := by
  cases hown : v.own? with
  | some c =>
    refine ⟨[custom c], by simp, (bodies_iff v _).2 ?_, ?_, ?_⟩
    · rw [← (sameAnswers_core v).items, core_of_own hown,
        sectionItems_of_single (v := custom c) trivial, truthy,
        ← truthy_of_own hown, htruthy]
      rfl
    · rw [plan_of_own hown, hinherits.resolve_nested hown htruthy, if_neg (by decide)]
    · rw [plan_of_own hown, hinherits.resolve_nested hown htruthy, if_pos rfl]
  | none =>
    obtain ⟨ws, hne, hbodies⟩ := bodies_of_truthy htruthy
    have hplain : v.RunsWith false ws := hbodies
    have hinverse : v.RunsWith true [] := .none ((truthy_iff v).2 htruthy)
    exact ⟨ws, hne, hbodies, plan_of_runsWith hown hplain convert,
      plan_of_runsWith hown hinverse convert⟩

/-- An inverse section over a value that is false runs its body once, with that value, and the
section does not. -/
theorem Inherits.plan_of_false (hinherits : v.Inherits) (hfalsy : v.truthy = .ok false) :
    v.plan convert false = .bodies [] ∧ ∃ u, SameCore u v ∧ v.plan convert true = .bodies [u] := by
  cases hown : v.own? with
  | some c =>
    refine ⟨?_, custom c, (core_of_own hown).symm, ?_⟩
    · rw [plan_of_own hown, hinherits.resolve_nested hown hfalsy, if_pos rfl]
    · rw [plan_of_own hown, hinherits.resolve_nested hown hfalsy, if_neg nofun]
  | none =>
    have hfalse := (falsy_iff v).2 hfalsy
    have hplain : v.RunsWith false [] := .none hfalse
    have hinverse : v.RunsWith true [v] := .itself hfalse
    exact ⟨plan_of_runsWith hown hplain convert, v, .refl v, plan_of_runsWith hown hinverse convert⟩

/-- A sequence that is too long still runs its section, and its inverse section fails before it
runs. -/
theorem plan_of_overlong {items : List Value} (hsequence : v.core = .sequence items)
    (hlong : maxLength < items.length) :
    v.plan convert false = .bodies items ∧ v.plan convert true = .fail .overlong := by
  have hown := own_of_sequence hsequence
  have hitems : v.sectionItems = .ok items := by
    rw [← (sameAnswers_core v).items, hsequence, sectionItems]
  have htruthy : v.truthy = .error .overlong := by
    rw [truthy_of_sequence hsequence, inhabited, if_neg (Nat.not_le_of_lt hlong)]
  have hinverse : v.items true = .error .overlong := by
    simp only [Value.items, if_true, inverseItems, htruthy, Except.map]
  have hsection : v.items false = .ok items := hitems
  simp only [plan, hown, hsection, hinverse, Plan.ofItems, and_self]

end Value

namespace Node

variable {convert : Conversion} {v w : Value} {name : FieldName} {a b : List Node}

/-- A section and an inverse one for the same name, one after the other. -/
def branches (name : FieldName) (a b : List Node) : List Node :=
  [.nested false name a, .nested true name b]

/-- The two branches are run over the same value, one after the other. -/
theorem scriptAll_branches (hnames : v.Names name w) :
    scriptAll convert (branches name a b) v =
      ((w.plan convert false).script (scriptAll convert a)).andThen
        ((w.plan convert true).script (scriptAll convert b)) := by
  simp only [branches, scriptAll, script, Value.tagPlan_of_names hnames, Script.andThen_done]

/-- Neither branch is run for a name that leads nowhere. -/
theorem scriptAll_branches_of_nowhere (hinherits : v.Inherits) (hnames : ∀ w, ¬ v.Names name w) :
    scriptAll convert (branches name a b) v = .done := by
  have hplan : ∀ inverted, v.tagPlan convert inverted name = .done := by
    intro inverted
    cases hown : v.own? with
    | some c =>
      rw [Value.tagPlan_of_ownField hown fun hdot => hnames v (.itself hdot),
        (hinherits c hown).fieldNested]
      rfl
    | none => exact Value.tagPlan_of_nowhere hown hnames convert inverted
  simp only [branches, scriptAll, script, hplan, Plan.script_done]
  rfl

theorem scriptAll_append (ms ns : List Node) :
    scriptAll convert (ms ++ ns) v = (scriptAll convert ms v).andThen (scriptAll convert ns v) := by
  induction ms with
  | nil => rfl
  | cons m ms ih => rw [List.cons_append, scriptAll, scriptAll, ih, Script.andThen_assoc]

/-- What the two branches for one name come to: the section is rendered, at least once, if what the
name leads to is true, and the inverse one, once, if it is false. A name that leads nowhere renders
neither. Behind the section over a sequence with more elements than can be counted there is only a
fault. -/
inductive Takes (convert : Conversion) (name : FieldName) (a b : List Node) (v : Value) :
    Script → Prop where
  | plain {w : Value} {ws : List Value} (hnames : v.Names name w) (htruthy : w.truthy = .ok true)
      (hsome : ws ≠ []) (hbodies : w.Bodies ws) :
      Takes convert name a b v (.each (scriptAll convert a) ws)
  | inverse {w u : Value} (hnames : v.Names name w) (hfalsy : w.truthy = .ok false)
      (hsame : u.SameCore w) : Takes convert name a b v (scriptAll convert b u)
  | overlong {w : Value} {items : List Value} (hnames : v.Names name w)
      (hsequence : w.core = .sequence items) (hlong : Value.maxLength < items.length) :
      Takes convert name a b v ((Script.each (scriptAll convert a) items).andThen (.fail .overlong))
  | neither (hnames : ∀ w, ¬ v.Names name w) : Takes convert name a b v .done

/-- A section and the inverse section behind it over one name render exactly one of their branches,
if the name leads to an ordinary value, and none if it leads nowhere. -/
theorem takes_scriptAll (hinherits : v.Inherits) (hordinary : ∀ w, v.Names name w → w.Ordinary) :
    Takes convert name a b v (scriptAll convert (branches name a b) v) := by
  by_cases hsome : ∃ w, v.Names name w
  · obtain ⟨w, hnames⟩ := hsome
    have hw := hordinary w hnames
    rw [scriptAll_branches hnames]
    rcases Value.truthy_cases w with ⟨_ | _, htruthy⟩ | hundecided
    · obtain ⟨hsection, u, hsame, hinverse⟩ := hw.inherits.plan_of_false htruthy
      rw [hsection, hinverse, Plan.script_bodies, Plan.script_bodies, Script.each, Script.each,
        Script.each, Script.andThen_done, Script.done_andThen]
      exact .inverse hnames htruthy hsame
    · obtain ⟨ws, hne, hbodies, hsection, hinverse⟩ := hw.inherits.plan_of_true htruthy
      rw [hsection, hinverse, Plan.script_bodies, Plan.script_bodies, Script.each,
        Script.andThen_done]
      exact .plain hnames htruthy hne hbodies
    · obtain ⟨items, hsequence, hlong⟩ :=
        hw.overlong_of_undecided ((Value.undecided_iff w).2 hundecided)
      obtain ⟨hsection, hinverse⟩ := Value.plan_of_overlong hsequence hlong
      rw [hsection, hinverse, Plan.script_bodies, Plan.script_fail]
      exact .overlong hnames hsequence hlong
  · have hnowhere : ∀ w, ¬ v.Names name w := fun w hnames => hsome ⟨w, hnames⟩
    rw [scriptAll_branches_of_nowhere hinherits hnowhere]
    exact .neither hnowhere

end Node

namespace Template

open Node

/-- A section and an inverse one over a value, or over one of its fields, never both run their
bodies and never both do not, unless the field is missing or hidden, or the value refuses to say
whether it is true or answers for its sections itself. In a source the two branches come to what one
of them asks for. -/
theorem section_or_inverse (convert : Conversion) :
    (∀ v : Value, v.Ordinary → v.Chooses fun inverted body => v.runSection convert inverted body) ∧
    (∀ (v : Value) name f, v.HasField name f → f.value.Ordinary →
      f.value.Chooses fun inverted body => v.runFieldSection convert inverted name body) ∧
    (∀ (v : Value) name, v.Inherits → (∀ f, ¬ v.HasField name f) →
      ∀ inverted body, v.runFieldSection convert inverted name body = .done) ∧
    (∀ hasher type fields table, RecordType.buildTable hasher type (some fields) = .ok table →
      ∀ name attrs, hasher name.text = some name.hash →
        (∀ f ∈ fields, f.skip = false → f.templateName = name.text →
          (Value.record table attrs).HasField name ⟨Value.attr attrs f.name, f.markdown⟩) ∧
        ((∀ f ∈ fields, f.templateName = name.text → f.skip = true) →
          ∀ f, ¬ (Value.record table attrs).HasField name f)) ∧
    (∀ name a b v, v.Inherits → (∀ w, v.Names name w → w.Ordinary) →
      Takes convert name a b v (scriptAll convert (branches name a b) v)) ∧
    ∀ hasher source t before name a b after, compileWith hasher source = .ok t →
      parse hasher source = .ok (before ++ (branches name a b ++ after)) → ∀ v,
        t.script convert v = (scriptAll convert before v).andThen
          ((scriptAll convert (branches name a b) v).andThen (scriptAll convert after v)) := by
  refine ⟨fun v hordinary => hordinary.chooses, fun v name f hfield hordinary => ?_,
    fun v name hinherits hmissing => Value.runFieldSection_of_missing hinherits hmissing,
    fun hasher type fields table hbuild name attrs hhash => ⟨?_, ?_⟩,
    fun name a b v hinherits hordinary => takes_scriptAll hinherits hordinary, ?_⟩
  · simp only [Value.runFieldSection_of_hasField hfield]
    exact hordinary.chooses
  · exact fun f hf hskip htemplate =>
      Value.hasField_of_shown hbuild hhash hf hskip htemplate attrs
  · exact fun hhidden => Value.not_hasField_of_hidden hbuild hhidden attrs
  · intro hasher source t before name a b after hcompile hparse v
    rw [script_eq_scriptAll hcompile hparse, scriptAll_append, scriptAll_append]

/-- A present list that is empty, a custom value that shows something and is false, an absent entry
of a map, an entry that it does not have, a hidden attribute of a record, and the two branches of a
source over the absent entry. -/
theorem section_or_inverse_absent :
    let c : Content Value := { truthy := .ok false, shown := fun _ _ => .ask (.asIs (Text.of "c")) }
    let map : Value := .mapping [(.name (Text.of "x"), .absent)]
    let x : FieldName := ⟨Text.of "x", 0⟩
    let y : FieldName := ⟨Text.of "y", 0⟩
    let fields : List FieldDecl := [{ name := Text.of "x" }, { name := Text.of "y", skip := true }]
    let table : FieldTable := .ofSpecs [⟨Text.of "x", Text.of "x", 0, false⟩]
    let attrs : List (Text × Value) := [(Text.of "x", .bare), (Text.of "y", .bare)]
    let t : Template := ⟨[⟨[], .opening false x 1⟩, ⟨Text.of "a", .closing⟩, ⟨[], .opening true x 1⟩,
      ⟨Text.of "b", .closing⟩]⟩
    let source := Text.of
      "\x7b\x7b#x\x7d\x7da\x7b\x7b/x\x7d\x7d\x7b\x7b^x\x7d\x7db\x7b\x7b/x\x7d\x7d"
    (Value.optional (.sequence []) true).Chooses
        (fun inverted body => (Value.optional (.sequence []) true).runSection .ok inverted body) ∧
      (Value.custom c).Chooses (fun inverted body => (Value.custom c).runSection .ok inverted body) ∧
      Value.absent.Chooses (fun inverted body => map.runFieldSection .ok inverted x body) ∧
      (∀ inverted body, map.runFieldSection .ok inverted y body = .done) ∧
      RecordType.buildTable (Hasher.constant 0) (Text.of "R") (some fields) = .ok table ∧
      (Value.record table attrs).HasField x ⟨.bare, false⟩ ∧
      (∀ f, ¬ (Value.record table attrs).HasField y f) ∧
      compileWith (Hasher.constant 0) source = .ok t ∧ t.render .ok map = .write (Text.of "b") := by
  intro c map x y fields table attrs t source
  obtain ⟨hvalue, hfield, hmissing, hrecord, hbranches, hsource⟩ := section_or_inverse .ok
  have hentry : map.HasField x ⟨.absent, false⟩ := .entry rfl
  have hnone : map.field? y.hash y.text = none := rfl
  have hplain : ∀ {v : Value}, (∀ n, v.core ≠ .number n) → v.own? = none → v.Ordinary :=
    fun hnumber hown =>
      ⟨fun ⟨negative, payload, hcore⟩ => hnumber _ hcore, by simp [Value.Inherits, hown]⟩
  have hcustom : (Value.custom c).Ordinary := by
    refine ⟨fun ⟨negative, payload, hcore⟩ => (nomatch hcore), fun d hown => ?_⟩
    cases hown
    exact ⟨⟨false, rfl⟩, rfl, rfl⟩
  have hbuild : RecordType.buildTable (Hasher.constant 0) (Text.of "R") (some fields) = .ok table := by
    decide
  have hcompile : compileWith (Hasher.constant 0) source = .ok t := by decide
  have hparse : parse (Hasher.constant 0) source =
      .ok ([] ++ (branches x [.literal (Text.of "a")] [.literal (Text.of "b")] ++ [])) := by
    rfl
  have hmap : ∀ f, ¬ map.HasField y f := by simp [Value.hasField_iff, hnone]
  refine ⟨hvalue _ (hplain nofun rfl), hvalue _ hcustom, hfield map x _ hentry (hplain nofun rfl),
    hmissing map y nofun hmap, hbuild,
    (hrecord _ _ _ _ hbuild x attrs rfl).1 _ (List.mem_cons_self) rfl rfl,
    (hrecord _ _ _ _ hbuild y attrs rfl).2 (by decide), hcompile, ?_⟩
  rw [render, hsource _ _ _ _ _ _ _ _ hcompile hparse]
  rfl

end Template

end Stencil
