import Stencil.Field.Hash
import Stencil.Value.Script

namespace Stencil

/-- A conversion of Markdown text to HTML. -/
abbrev Conversion := Text → Except Fault Text

/-- How a variable tag shows a value. -/
inductive Mode where
  | escaped
  | unescaped
  | markup
deriving DecidableEq

/-- The way of a variable tag, with entities or without. -/
def Mode.ofTag (escaped : Bool) : Mode := if escaped then .escaped else .unescaped

/-- What a section does next. -/
inductive Step (α : Type) where
  | ask (r : Request)
  /-- Runs the body with a value. -/
  | body (v : α)

/-- What a section does in order, and the fault that ends it, if any. -/
structure Plan (α : Type) where
  steps : List (Step α)
  fault : Option Fault := none

namespace Step

variable {α β : Type}

def map (f : α → β) : Step α → Step β
  | ask r => .ask r
  | body v => .body (f v)

/-- The value that the body runs with, if it does. -/
def value? : Step α → Option α
  | ask _ => none
  | body v => some v

/-- The script of a step, given that of the body with each value. -/
def script (once : α → Script) : Step α → Script
  | ask r => .ask r
  | body v => once v

end Step

namespace Plan

variable {α β : Type}

def done : Plan α := ⟨[], none⟩

/-- The body with some values in order, and nothing else. -/
def bodies (vs : List α) : Plan α := ⟨vs.map .body, none⟩

def fail (f : Fault) : Plan α := ⟨[], some f⟩

/-- The body with some values, if it is known with which. -/
def ofItems : Except Fault (List α) → Plan α
  | .ok vs => bodies vs
  | .error f => fail f

def map (f : α → β) (p : Plan α) : Plan β := ⟨p.steps.map (Step.map f), p.fault⟩

/-- The script of a plan, given that of the body with each value. -/
def script (p : Plan α) (once : α → Script) : Script :=
  (Script.each (Step.script once) p.steps).andThen ⟨[], p.fault⟩

/-- The values that the body runs with, in order. -/
def values (p : Plan α) : List α := p.steps.filterMap Step.value?

@[simp] theorem script_done (once : α → Script) : (done : Plan α).script once = .done := rfl

@[simp] theorem script_fail (f : Fault) (once : α → Script) :
    (fail f : Plan α).script once = .fail f := rfl

@[simp] theorem script_bodies (vs : List α) (once : α → Script) :
    (bodies vs).script once = .each once vs := by
  have heach : Script.each (Step.script once) (vs.map .body) = .each once vs := by
    induction vs with
    | nil => rfl
    | cons v vs ih => rw [List.map_cons, Script.each, ih]; rfl
  rw [script, bodies, heach]
  exact Script.andThen_done _

@[simp] theorem values_done : (done : Plan α).values = [] := rfl

@[simp] theorem values_fail (f : Fault) : (fail f : Plan α).values = [] := rfl

@[simp] theorem values_bodies (vs : List α) : (bodies vs).values = vs := by
  rw [values, bodies, List.filterMap_map]
  exact List.filterMap_some

theorem values_map (f : α → β) (p : Plan α) : (p.map f).values = p.values.map f := by
  rw [values, values, map, List.filterMap_map, List.map_filterMap]
  congr 1
  funext step
  cases step <;> rfl

theorem not_ask_mem_ofItems {x : Except Fault (List α)} {r : Request} :
    .ask r ∉ (ofItems x).steps := by
  cases x with
  | ok vs => simp [ofItems, bodies]
  | error f => simp [ofItems, fail]

theorem ask_mem_map {f : α → β} {p : Plan α} {r : Request} :
    .ask r ∈ (p.map f).steps ↔ .ask r ∈ p.steps := by
  rw [map, List.mem_map]
  constructor
  · rintro ⟨step, hstep, hask⟩
    cases step with
    | ask q =>
      cases hask
      exact hstep
    | body v => cases hask
  · exact fun hask => ⟨.ask r, hask, rfl⟩

theorem mem_values_ofItems {x : Except Fault (List α)} {v : α} :
    v ∈ (ofItems x).values ↔ ∃ vs, x = .ok vs ∧ v ∈ vs := by
  cases x with
  | ok vs => simp [ofItems]
  | error f => simp [ofItems]

end Plan

/-- The answers of a custom value. In the plans of its sections `none` stands for the value itself.
A section that is not answered runs once, with the value itself, if that is true, and an inverse one
if it is false. -/
structure Content (α : Type) where
  truthy : Except Fault Bool := .ok true
  /-- What it counts, for a template whose literal text has a number of bytes. -/
  hint : Except Fault ((literal : Nat) → Int) := .ok fun _ => 0
  shown : Conversion → Mode → Script := fun _ _ => .done
  nested : Conversion → (inverted : Bool) → Plan (Option α) := fun _ inverted =>
    .ofItems (truthy.map fun b => if b = inverted then [] else [none])
  fieldShown : Conversion → (escaped : Bool) → Hash → Text → Script := fun _ _ _ _ => .done
  fieldNested : Conversion → (inverted : Bool) → Hash → Text → Plan (Option α) :=
    fun _ _ _ _ => .done

/-- Refuses every answer with one fault. -/
def Content.failing {α : Type} (f : Fault) : Content α where
  truthy := .error f
  hint := .error f
  shown _ _ := .fail f
  nested _ _ := .fail f
  fieldShown _ _ _ _ := .fail f
  fieldNested _ _ _ _ := .fail f

end Stencil
