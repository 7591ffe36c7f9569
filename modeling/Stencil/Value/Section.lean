import Stencil.Value.Basic

namespace Stencil

namespace Value

/-- The value itself, once, under a condition. -/
def onceIf (v : Value) (condition : Bool) : List Value := if condition then [v] else []

/-- The values that the body of a section runs with, in order, unless the value has a plan of its
own. -/
def sectionItems : Value → Except Fault (List Value)
  | sequence items => .ok items
  | optional inner present => .ok (inner.onceIf present)
  | success inner => .ok [inner]
  | adapted inner => inner.sectionItems
  | v => v.truthy.map v.onceIf

/-- The values that the body of an inverse section runs with, unless the value has a plan of its
own. -/
def inverseItems (v : Value) : Except Fault (List Value) :=
  v.truthy.map fun b => v.onceIf !b

/-- The items of a section or of an inverse one. -/
def items (inverted : Bool) (v : Value) : Except Fault (List Value) :=
  if inverted then v.inverseItems else v.sectionItems

/-- A plan of a custom value, in which the value itself takes its place. -/
def resolve (c : Content Value) (p : Plan (Option Value)) : Plan Value :=
  p.map fun v => v.getD (custom c)

/-- What a section over the value does, or an inverse one. -/
def plan (convert : Conversion) (inverted : Bool) (v : Value) : Plan Value :=
  match v.own? with
  | some c => resolve c (c.nested convert inverted)
  | none => .ofItems (v.items inverted)

/-- A field that a name leads to, and whether it is shown through Markdown. -/
structure Field where
  value : Value
  markdown : Bool

/-- The field of a value that a name leads to. A mapping has the entry of that key, a record the
visible field of that template name; no other value has fields. -/
def field? (hash : Hash) (name : Text) : Value → Option Field
  | mapping entries => (entries.lookup (.name name)).map fun v => ⟨v, false⟩
  | record table attrs =>
    (table.lookup hash name).map fun s => ⟨attr attrs s.attr, s.markdown⟩
  | adapted inner => inner.field? hash name
  | _ => none

/-- What a section over a field does, or an inverse one; over a field that is not there it does
nothing. -/
def fieldPlan (convert : Conversion) (inverted : Bool) (hash : Hash) (name : Text) (v : Value) :
    Plan Value :=
  match v.own? with
  | some c => resolve c (c.fieldNested convert inverted hash name)
  | none =>
    match v.field? hash name with
    | some f => f.value.plan convert inverted
    | none => .done

/-- What a section over what a tag names does: over the value itself, or over one of its fields. -/
def tagPlan (convert : Conversion) (inverted : Bool) (name : FieldName) (v : Value) : Plan Value :=
  if name.isDot then v.plan convert inverted
  else v.fieldPlan convert inverted name.hash name.text

/-- A tag leads a section to the value itself, to what a custom value answers for one of its fields,
to a field, or to nothing. -/
theorem tagPlan_cases (v : Value) (name : FieldName) :
    (∀ convert inverted, v.tagPlan convert inverted name = v.plan convert inverted) ∨
    (∃ c, v.own? = some c ∧ ∀ convert inverted, v.tagPlan convert inverted name =
      resolve c (c.fieldNested convert inverted name.hash name.text)) ∨
    (∃ f, v.field? name.hash name.text = some f ∧
      ∀ convert inverted, v.tagPlan convert inverted name = f.value.plan convert inverted) ∨
    ∀ convert inverted, v.tagPlan convert inverted name = .done := by
  cases hdot : name.isDot with
  | true => exact .inl fun _ _ => by rw [tagPlan, if_pos hdot]
  | false =>
    right
    simp only [tagPlan, hdot, Bool.false_eq_true, if_false, fieldPlan]
    cases hown : v.own? with
    | some c => exact .inl ⟨c, rfl, fun _ _ => rfl⟩
    | none =>
      cases hfield : v.field? name.hash name.text with
      | some f => exact .inr (.inl ⟨f, rfl, fun _ _ => rfl⟩)
      | none => exact .inr (.inr fun _ _ => rfl)

end Value

end Stencil
