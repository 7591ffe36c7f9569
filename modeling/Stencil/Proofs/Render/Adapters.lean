import Stencil.Proofs.Render.Replace
import Stencil.Proofs.Sink.Encoder
import Stencil.Render.Adapter

namespace Stencil

namespace Value

/-- The value behind its adapters. -/
def core : Value → Value
  | adapted inner => inner.core
  | v => v

variable {v w : Value}

/-- An adapter answers as the value behind it does. -/
theorem sameAnswers_core (v : Value) : SameAnswers v.core v := by
  induction v using core.induct with
  | case1 inner ih =>
    exact {
      shows := ih.shows
      own := ih.own
      truthy := ih.truthy
      items := ih.items
      field := ih.field
      hint := fun literal => by simpa only [core, hint] using ih.hint literal }
  | case2 v hadapted =>
    rw [core.eq_2 v hadapted]
    exact ⟨fun _ _ => rfl, rfl, rfl, rfl, fun _ _ => rfl, fun _ => rfl⟩

theorem core_of_own {c : Content Value} (hown : v.own? = some c) : v.core = custom c := by
  induction v using own?.induct with
  | case1 c' =>
    cases hown
    rfl
  | case2 inner ih => exact ih hown
  | case3 v hcustom hadapted => simp [own?] at hown

/-- A value that is wrapped once more still has the same core. -/
theorem core_adapter (v : Value) : v.adapter.core = v.core := by
  unfold adapter
  cases hown : v.own? with
  | some c => rw [core_of_own hown, core]; nofun
  | none => cases v <;> rfl

/-- A section hands on the same from within a wrapping. -/
theorem sectionHands_core (v : Value) : v.core.sectionHands = v.sectionHands := by
  induction v using core.induct with
  | case1 inner ih => exact ih
  | case2 v hadapted => rw [core.eq_2 v hadapted]

/-- Two values with the same value behind their adapters. -/
def SameCore (v w : Value) : Prop := v.core = w.core

theorem SameCore.refl (v : Value) : SameCore v v := rfl

theorem sameCore_adapter (v : Value) : SameCore v.adapter v := core_adapter v

/-- Wrapped values count as true when what they wrap does. -/
theorem SameCore.truthy_eq (hvw : SameCore v w) : v.truthy = w.truthy := by
  rw [← (sameAnswers_core v).truthy, hvw, (sameAnswers_core w).truthy]

theorem SameCore.field_eq (hvw : SameCore v w) (hash : Hash) (name : Text) :
    v.field? hash name = w.field? hash name := by
  rw [← (sameAnswers_core v).field, hvw, (sameAnswers_core w).field]

theorem SameCore.own_eq (hvw : SameCore v w) : v.own? = w.own? := by
  rw [← (sameAnswers_core v).own, hvw, (sameAnswers_core w).own]

/-- A variable tag cannot tell a wrapped value from the value. -/
theorem SameCore.scriptTag_eq (hvw : SameCore v w) (convert : Conversion) (escaped : Bool)
    (name : FieldName) : v.scriptTag convert escaped name = w.scriptTag convert escaped name := by
  have hshows : v.scriptAs convert (.ofTag escaped) = w.scriptAs convert (.ofTag escaped) := by
    rw [← (sameAnswers_core v).shows, hvw, (sameAnswers_core w).shows]
  unfold Value.scriptTag scriptField
  rw [hshows, hvw.own_eq, hvw.field_eq]

/-- What is handed on and what `sectionItems` goes on with are the same behind their adapters. -/
theorem sectionHands_alike (v : Value) : ItemsAlike SameCore v.sectionHands v.sectionItems := by
  induction v using sectionItems.induct with
  | case1 items => exact .of_forall fun _ _ u _ => rfl
  | case2 inner present => exact .of_forall fun _ _ u _ => rfl
  | case3 inner => exact .of_forall fun _ _ u _ => rfl
  | case4 inner ih => exact ih
  | case5 v hsequence hoptional hsuccess hadapted =>
    rw [sectionItems.eq_5 v hsequence hoptional hsuccess hadapted,
      sectionHands.eq_5 v hsequence hoptional hsuccess hadapted]
    cases v.truthy with
    | error f => exact .fault f
    | ok b => exact .items (onceIf_alike (sameCore_adapter v) b)

/-- What a walk with adapters hands to a body is the item itself, wrapped or not. -/
theorem hands_alike (hvw : SameCore v w) (inverted : Bool) :
    ItemsAlike SameCore (if inverted then v.inverseHands else v.sectionHands) (w.items inverted) := by
  cases inverted with
  | true =>
    have hadapter : SameCore v.adapter w := (sameCore_adapter v).trans hvw
    simp only [items, if_true, inverseHands, inverseItems, hvw.truthy_eq]
    cases w.truthy with
    | error f => exact .fault f
    | ok b => exact .items (onceIf_alike hadapter _)
  | false =>
    have hhands : v.sectionHands = w.sectionHands := by
      rw [← sectionHands_core v, hvw, sectionHands_core]
    simpa only [items, Bool.false_eq_true, if_false, hhands] using sectionHands_alike w

section Handing

variable {Q : Request → Prop} (hasks : ∀ r, Q r) (convert : Conversion) (inverted : Bool)

include hasks

/-- A section over a wrapped value does the same in the same order. -/
theorem handing_alike (hvw : SameCore v w) :
    PlanAlike Q SameCore (v.handing convert inverted) (w.plan convert inverted) := by
  unfold handing plan
  rw [hvw.own_eq]
  cases w.own? with
  | some c => exact .of_refl hasks SameCore.refl _
  | none => exact .ofItems (hands_alike hvw inverted)

/-- And so does a section over a field of it. -/
theorem fieldHanding_alike (hvw : SameCore v w) (hash : Hash) (name : Text) :
    PlanAlike Q SameCore (v.fieldHanding convert inverted hash name)
      (w.fieldPlan convert inverted hash name) := by
  unfold fieldHanding fieldPlan
  rw [hvw.own_eq, hvw.field_eq]
  cases w.own? with
  | some c => exact .of_refl hasks SameCore.refl _
  | none =>
    cases w.field? hash name with
    | none => exact .done
    | some f => exact handing_alike hasks convert inverted rfl

end Handing

end Value

/-- A walk that goes on with adapters comes to the same script. -/
theorem Template.scriptAdapted_eq (t : Template) (convert : Conversion) (v : Value) :
    t.scriptAdapted convert v = t.script convert v := by
  have hrelated : Interpretation.Related (.adapted convert) (.scripts convert) Eq Value.SameCore
      t.blocks := {
    done := rfl
    literal := fun b hb hne => rfl
    fail := fun f => rfl
    andThen := by
      rintro a b a' b' rfl rfl
      rfl
    shown := fun b hb escaped name htag v w hvw => hvw.scriptTag_eq convert escaped name
    plan := by
      intro b hb inverted name children htag v w hvw
      simp only [Interpretation.adapted, Interpretation.scripts, Value.tagPlan]
      split
      · exact Value.handing_alike (fun _ => trivial) convert inverted hvw
      · exact Value.fieldHanding_alike (fun _ => trivial) convert inverted hvw _ _ }
  rw [scriptAdapted, renderOn_related hrelated (Value.sameCore_adapter v), renderOn_scripts]

namespace Value

/-- Puts an adapter around a value, which may have one already. -/
inductive Wraps : Value → Value → Prop where
  | adapter (v : Value) : Wraps v (.adapted v)

/-- A value that is wrapped in place of another answers as that does. -/
theorem Wraps.sameAnswers (hvw : Wraps v w) : SameAnswers v w := by
  cases hvw with
  | adapter =>
    exact {
      shows := fun _ _ => rfl
      own := rfl
      truthy := rfl
      items := rfl
      field := fun _ _ => rfl
      hint := fun literal => by simp only [hint] }

end Value

namespace Template

variable {v w : Value}

/-- Whatever part of a value is handed over as an adapter, and however many adapters are put around
it, every encoder is told the same size, is asked for the same and sees the same outcome, and so
does every writer and every sink. It is the same again whether the sections go on with adapters or
with what is behind them. -/
theorem render_of_wraps (hvw : Relation.ReflTransGen (Value.InPlace Value.Wraps) v w)
    (t : Template) (convert : Conversion) :
    t.capacity v = t.capacity w ∧
    t.scriptAdapted convert v = t.scriptAdapted convert w ∧
    t.scriptAdapted convert v = t.script convert v ∧ t.script convert v = t.script convert w ∧
    t.render convert v = t.render convert w ∧
    (∀ {σ : Type} (e : Encoder σ) (s : σ),
      t.renderInto convert v e s = t.renderInto convert w e s) ∧
    (∀ {σ : Type} [Sink σ] (s : σ), t.renderTo convert v s = t.renderTo convert w s) ∧
    ∀ {σ : Type} (writer : Writer σ) (s : σ),
      t.renderBy convert v writer s = t.renderBy convert w writer s := by
  obtain ⟨hcapacity, hscript⟩ := script_eq_of_inPlace Value.Wraps.sameAnswers hvw t convert
  refine ⟨hcapacity, ?_, t.scriptAdapted_eq convert v, hscript, by rw [render, render, hscript],
    renderInto_congr hcapacity hscript, renderTo_congr hcapacity hscript,
    renderBy_congr hcapacity hscript⟩
  rw [scriptAdapted_eq, scriptAdapted_eq, hscript]

/-- An adapter around the second element of a list, and two more around the list. -/
theorem render_of_wraps_twice :
    let t : Template := ⟨[⟨[], .opening false ⟨Text.of "x", 0⟩ 2⟩,
      ⟨Text.of "<", .print true ⟨FieldName.dot, 0⟩⟩, ⟨Text.of ">", .closing⟩]⟩
    let named (v : Value) : Value := .mapping [(.name (Text.of "x"), v)]
    let v := named (.sequence [.text (Text.of "a"), .text (Text.of "b")])
    let w := named (.adapted (.adapted
      (.sequence [.text (Text.of "a"), .adapted (.text (Text.of "b"))])))
    Relation.ReflTransGen (Value.InPlace Value.Wraps) v w ∧
      t.capacity v = t.capacity w ∧ t.scriptAdapted .ok v = t.scriptAdapted .ok w ∧
      (t.render .ok v).writes = [Text.of "<", Text.of "a", Text.of ">", Text.of "<", Text.of "b",
        Text.of ">"] := by
  intro t named v w
  have hnamed : ∀ {x y : Value}, Value.InPlace Value.Wraps x y →
      Value.InPlace Value.Wraps (named x) (named y) := fun hxy => .entry _ [] [] hxy
  have helement := hnamed (.element [.text (Text.of "a")] [] (.here (.adapter (.text (Text.of "b")))))
  have hvw : Relation.ReflTransGen (Value.InPlace Value.Wraps) v w :=
    .tail (.tail (.single helement) (hnamed (.here (.adapter _)))) (hnamed (.here (.adapter _)))
  obtain ⟨hcapacity, hadapted, -⟩ := render_of_wraps hvw t .ok
  exact ⟨hvw, hcapacity, hadapted, by decide⟩

end Template

end Stencil
