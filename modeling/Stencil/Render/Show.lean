import Stencil.Render.Run
import Stencil.Value.Section

namespace Stencil

namespace Value

/-- What is asked for to show a text. -/
def scriptText (convert : Conversion) (mode : Mode) (t : Text) : Script :=
  match mode with
  | .escaped => .ask (.escaped t)
  | .unescaped => .ask (.asIs t)
  | .markup => .answer (convert t) fun html => .ask (.asIs html)

def boolText (b : Bool) : Text := if b then Text.of "true" else Text.of "false"

/-- What a value asks for when it is shown; a value without a text of its own asks for nothing. -/
def scriptAs (convert : Conversion) (mode : Mode) : Value → Script
  | text t => scriptText convert mode t
  | bool b => .ask (.asIs (boolText b))
  | number n => .ask (.number n)
  | optional inner present => if present then inner.scriptAs convert mode else .done
  | success inner => inner.scriptAs convert mode
  | custom c => c.shown convert mode
  | adapted inner => inner.scriptAs convert mode
  | _ => .done

/-- What a variable tag asks for to show a field. A field shown through Markdown is the same with
entities and without; a field that is not there shows nothing. -/
def scriptField (convert : Conversion) (escaped : Bool) (hash : Hash) (name : Text) (v : Value) :
    Script :=
  match v.own? with
  | some c => c.fieldShown convert escaped hash name
  | none =>
    match v.field? hash name with
    | some f => f.value.scriptAs convert (if f.markdown then .markup else Mode.ofTag escaped)
    | none => .done

/-- What a variable tag asks for: for the value itself, or for one of its fields. -/
def scriptTag (convert : Conversion) (escaped : Bool) (name : FieldName) (v : Value) : Script :=
  if name.isDot then v.scriptAs convert (Mode.ofTag escaped)
  else v.scriptField convert escaped name.hash name.text

/-- A variable tag shows the value itself, what a custom value answers for one of its fields, a
field, or nothing. -/
theorem scriptTag_cases (v : Value) (name : FieldName) :
    (∀ convert escaped,
      v.scriptTag convert escaped name = v.scriptAs convert (Mode.ofTag escaped)) ∨
    (∃ c, v.own? = some c ∧ ∀ convert escaped,
      v.scriptTag convert escaped name = c.fieldShown convert escaped name.hash name.text) ∨
    (∃ f, name.isDot = false ∧ v.field? name.hash name.text = some f ∧ ∀ convert escaped,
      v.scriptTag convert escaped name =
        f.value.scriptAs convert (if f.markdown then .markup else Mode.ofTag escaped)) ∨
    ∀ convert escaped, v.scriptTag convert escaped name = .done := by
  cases hdot : name.isDot with
  | true => exact .inl fun _ _ => by rw [scriptTag, if_pos hdot]
  | false =>
    right
    simp only [scriptTag, hdot, Bool.false_eq_true, if_false, scriptField]
    cases hown : v.own? with
    | some c => exact .inl ⟨c, rfl, fun _ _ => rfl⟩
    | none =>
      cases hfield : v.field? name.hash name.text with
      | some f => exact .inr (.inl ⟨f, trivial, rfl, fun _ _ => rfl⟩)
      | none => exact .inr (.inr fun _ _ => rfl)

/-- Shows a value where only texts can be written. -/
def showAs (convert : Conversion) (mode : Mode) (v : Value) : Run := (v.scriptAs convert mode).run

/-- Shows what a variable tag names where only texts can be written. -/
def showTag (convert : Conversion) (escaped : Bool) (name : FieldName) (v : Value) : Run :=
  (v.scriptTag convert escaped name).run

end Value

end Stencil
