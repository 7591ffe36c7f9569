import Stencil.Value.Basic

namespace Stencil

namespace Value

/-- What a boolean or a number counts. -/
def scalarHint : Int := 5

/-- A sum in order, up to the first fault. -/
def sumHints (start : Int) : List (Except Fault Int) → Except Fault Int
  | [] => .ok start
  | .ok n :: hints => sumHints (start + n) hints
  | .error f :: _ => .error f

mutual

/-- A rough number of bytes that a value adds to a template whose literal text has `literal`
bytes. -/
def hint (literal : Nat) : Value → Except Fault Int
  | text t => .ok t.utf8Size
  | bool _ => .ok scalarHint
  | number _ => .ok scalarHint
  | optional inner present => if present then inner.hint literal else .ok 0
  | success inner => inner.hint literal
  | record table attrs =>
    let hints := attrHints literal attrs
    sumHints literal
      (table.specs.map fun s => (hints.lookup s.attr).getD (.error (.unset s.attr)))
  | custom c => c.hint.map fun h => h literal
  | adapted inner => inner.hint literal
  | _ => .ok 0

/-- The hints of some attributes. -/
def attrHints (literal : Nat) : List (Text × Value) → List (Text × Except Fault Int)
  | [] => []
  | (name, v) :: rest => (name, v.hint literal) :: attrHints literal rest

end

theorem attrHints_eq_map (literal : Nat) (attrs : List (Text × Value)) :
    attrHints literal attrs = attrs.map fun a => (a.1, a.2.hint literal) := by
  induction attrs with
  | nil => rfl
  | cons a rest ih => rw [attrHints, ih, List.map_cons]

/-- What the hint of a record counts for one attribute. -/
theorem lookup_attrHints (literal : Nat) (attrs : List (Text × Value)) (name : Text) :
    ((attrHints literal attrs).lookup name).getD (.error (.unset name)) =
      (attr attrs name).hint literal := by
  have hunset : (unset name).hint literal = .error (.unset name) := by
    simp [hint, unset, Content.failing, Except.map]
  rw [attrHints_eq_map, ← hunset]
  exact lookup_map_attr (hint literal) attrs name

/-- A record counts the literal text and what its visible fields count, in the order of the
fields. -/
theorem hint_record (literal : Nat) (table : FieldTable) (attrs : List (Text × Value)) :
    (record table attrs).hint literal =
      sumHints literal (table.specs.map fun s => (attr attrs s.attr).hint literal) := by
  simp only [hint, lookup_attrHints]

end Value

end Stencil
