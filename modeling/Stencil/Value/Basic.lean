import Stencil.Field.Table
import Stencil.Value.Content

namespace Stencil

/-- A key of a mapping. Only a name can be asked for by a tag. -/
inductive Key where
  | name (t : Text)
  | other
deriving DecidableEq

/-- What a template can be rendered with. A value that is bare counts as true and shows nothing. -/
inductive Value where
  | absent
  | bool (b : Bool)
  | number (n : Number)
  | text (t : Text)
  | sequence (items : List Value)
  | mapping (entries : List (Key × Value))
  /-- A value that counts as present or not, whatever it is. -/
  | optional (inner : Value) (present : Bool)
  | success (inner : Value)
  | failure (error : Text)
  /-- An exception itself, which stands for a failure. -/
  | exception (error : Text)
  /-- A record with its attributes, seen through a field table. -/
  | record (table : FieldTable) (attrs : List (Text × Value))
  | custom (c : Content Value)
  | bare
  /-- A value already wrapped as content. -/
  | adapted (inner : Value)

/-- How a value takes part in a render. -/
inductive Value.Kind where
  | text
  | bool
  | number
  | optional
  | fallible
  | sequence
  | mapping
  | record
  | custom
  | bare
deriving DecidableEq

namespace Value

instance : Inhabited Value := ⟨absent⟩

/-- What stands for an attribute that is not set: reading it fails, and so does whatever it is read
for. -/
def unset (name : Text) : Value := .custom (.failing (.unset name))

/-- The attribute of a record of this name. -/
def attr (attrs : List (Text × Value)) (name : Text) : Value :=
  (attrs.lookup name).getD (unset name)

/-- An attribute is looked up among the results of a function as it is among the values. -/
theorem lookup_map_attr {α : Type} (f : Value → α) (attrs : List (Text × Value)) (name : Text) :
    ((attrs.map fun a => (a.1, f a.2)).lookup name).getD (f (unset name)) =
      f (attr attrs name) := by
  rw [attr]
  induction attrs with
  | nil => rfl
  | cons a rest ih =>
    rw [List.map_cons, List.lookup_cons, List.lookup_cons]
    cases name == a.1 with
    | true => rfl
    | false => exact ih

def kind : Value → Kind
  | absent => .optional
  | bool _ => .bool
  | number _ => .number
  | text _ => .text
  | sequence _ => .sequence
  | mapping _ => .mapping
  | optional _ _ => .optional
  | success _ => .fallible
  | failure _ => .fallible
  | exception _ => .fallible
  | record _ _ => .record
  | custom _ => .custom
  | bare => .bare
  | adapted inner => inner.kind

/-- The greatest length that a machine word holds. -/
def maxLength : Nat := 9223372036854775807

/-- Whether there is anything in a sequence, which is asked for its length. A range may be longer
than what it takes to hold it. -/
def inhabited (items : List Value) : Except Fault Bool :=
  if items.length ≤ maxLength then .ok (!items.isEmpty) else .error .overlong

/-- Only the length of a sequence is looked at. -/
theorem inhabited_congr {xs ys : List Value} (hlength : xs.length = ys.length) :
    inhabited xs = inhabited ys := by
  have hempty : xs.isEmpty = ys.isEmpty := by
    rw [Bool.eq_iff_iff, List.isEmpty_iff_length_eq_zero, List.isEmpty_iff_length_eq_zero, hlength]
  rw [inhabited, inhabited, hlength, hempty]

theorem inhabited_of_le {items : List Value} (hlength : items.length ≤ maxLength) :
    inhabited items = .ok (!items.isEmpty) := if_pos hlength

/-- Whether a section runs over the value. -/
def truthy : Value → Except Fault Bool
  | absent => .ok false
  | bool b => .ok b
  | number n =>
    match n.nonzero? with
    | some b => .ok b
    | none => .error .undefinedTruth
  | text t => .ok (!t.isEmpty)
  | sequence items => inhabited items
  | mapping entries => .ok (!entries.isEmpty)
  | optional _ present => .ok present
  | success _ => .ok true
  | failure _ => .ok false
  | exception _ => .ok false
  | record _ _ => .ok true
  | custom c => c.truthy
  | bare => .ok true
  | adapted inner => inner.truthy

/-- The answers of the value itself, if it is a custom one. -/
def own? : Value → Option (Content Value)
  | custom c => some c
  | adapted inner => inner.own?
  | _ => none

end Value

end Stencil
