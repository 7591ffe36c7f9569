import Stencil.Sink.Basic

namespace Stencil

/-- Takes every write, and keeps the largest size it was told. -/
structure Buffer where
  /-- What was written, latest first. -/
  parts : List Text := []
  capacity : Int := 0
deriving DecidableEq

namespace Buffer

/-- Everything written so far. -/
def text (b : Buffer) : Text := b.parts.reverse.flatten

instance : Sink Buffer where
  write b t := .ok { b with parts := t :: b.parts }
  reserve b n := { b with capacity := max b.capacity n }

@[simp] theorem writeAll_eq (b : Buffer) (ts : List Text) :
    Sink.writeAll b ts = ({ b with parts := ts.reverse ++ b.parts }, none) := by
  induction ts generalizing b with
  | nil => rfl
  | cons t ts ih =>
    rw [Sink.writeAll]
    simp only [Sink.write]
    rw [ih]
    simp

end Buffer

/-- Renders a value to a text. -/
def Template.renderText (t : Template) (convert : Conversion) (v : Value) : Except Failure Text :=
  match t.renderTo convert v ({} : Buffer) with
  | (b, none) => .ok b.text
  | (_, some e) => .error e

/-- The text that is rendered is all that is written. -/
theorem Template.renderText_eq (t : Template) (convert : Conversion) (v : Value) :
    t.renderText convert v = (t.renderWith convert v).text.mapError .fault := by
  have hempty : (Sink.announce ({} : Buffer) (t.capacity v)).parts = [] := by
    cases t.capacity v <;> rfl
  rw [renderText, renderTo, Run.deliver, Buffer.writeAll_eq, Run.text]
  cases (t.renderWith convert v).fault with
  | none =>
    refine congrArg Except.ok ?_
    simp [Buffer.text, hempty]
  | some f => rfl

/-- Keeps each write and each expected size apart, and refuses every write once it holds as many as
it has room for. -/
structure Recorder where
  room : Option Nat := none
  /-- The writes, latest first. -/
  held : List Text := []
  /-- The expected sizes, latest first. -/
  sizes : List Int := []
deriving DecidableEq

namespace Recorder

/-- Whether one more write would be refused. -/
def isFull (r : Recorder) : Bool := r.room.any fun n => n ≤ r.held.length

instance : Sink Recorder where
  write r t := if r.isFull then .error .diskFull else .ok { r with held := t :: r.held }
  reserve r n := { r with sizes := n :: r.sizes }

/-- The writes in order. -/
def writes (r : Recorder) : List Text := r.held.reverse

/-- The expected sizes in order. -/
def reserved (r : Recorder) : List Int := r.sizes.reverse

end Recorder

end Stencil
