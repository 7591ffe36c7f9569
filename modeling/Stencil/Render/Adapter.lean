import Stencil.Render.Interpretation

namespace Stencil

namespace Value

/-- The adapter of a value. A value is asked nothing directly, but only through its adapter; an
adapter is its own, and so is a custom value. -/
def adapter (v : Value) : Value :=
  match v.own? with
  | some c => custom c
  | none =>
    match v with
    | adapted inner => .adapted inner
    | v => .adapted v

/-- What a section hands on to its body, one time after another, unless the value has a plan of its
own: the elements of a sequence, and what an optional value or a success holds, as they are, and the
adapter of every other value. -/
def sectionHands : Value → Except Fault (List Value)
  | sequence items => .ok items
  | optional inner present => .ok (inner.onceIf present)
  | success inner => .ok [inner]
  | adapted inner => inner.sectionHands
  | v => v.truthy.map v.adapter.onceIf

/-- What an inverse section hands on to its body, unless the value has a plan of its own. -/
def inverseHands (v : Value) : Except Fault (List Value) :=
  v.truthy.map fun b => v.adapter.onceIf !b

/-- What a section over the value does, or an inverse one, where adapters are handed on. -/
def handing (convert : Conversion) (inverted : Bool) (v : Value) : Plan Value :=
  match v.own? with
  | some c => resolve c (c.nested convert inverted)
  | none => .ofItems (if inverted then v.inverseHands else v.sectionHands)

/-- What a section over a field does, where adapters are handed on. -/
def fieldHanding (convert : Conversion) (inverted : Bool) (hash : Hash) (name : Text) (v : Value) :
    Plan Value :=
  match v.own? with
  | some c => resolve c (c.fieldNested convert inverted hash name)
  | none =>
    match v.field? hash name with
    | some f => f.value.handing convert inverted
    | none => .done

/-- Runs a body as a section over the value, or an inverse one, does. -/
def runSection (convert : Conversion) (inverted : Bool) (body : Value → Script) (v : Value) :
    Script :=
  (v.handing convert inverted).script body

/-- Runs a body as a section over a field of the value does. -/
def runFieldSection (convert : Conversion) (inverted : Bool) (name : FieldName)
    (body : Value → Script) (v : Value) : Script :=
  (v.fieldHanding convert inverted name.hash name.text).script body

end Value

/-- The steps of a walk as scripts, where sections hand on adapters. -/
def Interpretation.adapted (convert : Conversion) : Interpretation Script :=
  { scripts convert with
    plan := fun inverted name v =>
      if name.isDot then v.handing convert inverted
      else v.fieldHanding convert inverted name.hash name.text }

/-- What the adapter of a value asks for. -/
def Template.scriptAdapted (t : Template) (convert : Conversion) (v : Value) : Script :=
  t.renderOn (.adapted convert) v.adapter

end Stencil
