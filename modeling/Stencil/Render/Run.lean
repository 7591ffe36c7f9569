import Stencil.Text.Entities
import Stencil.Value.Script

namespace Stencil

/-- The texts that are written one after another, and the fault that stopped this, if any. -/
structure Run where
  writes : List Text
  fault : Option Fault := none
deriving DecidableEq

namespace Run

/-- Writes nothing. -/
def done : Run := ⟨[], none⟩

/-- Writes one text. -/
def write (t : Text) : Run := ⟨[t], none⟩

/-- Writes nothing and stops. -/
def fail (f : Fault) : Run := ⟨[], some f⟩

/-- Writes a text, or stops if there is none because a number in it is too long. -/
def writeShort (t : Option Text) : Run :=
  match t with
  | some t => write t
  | none => fail .tooManyDigits

/-- One run and then another, unless the first one stops. -/
def andThen (a b : Run) : Run :=
  match a.fault with
  | none => ⟨a.writes ++ b.writes, b.fault⟩
  | some _ => a

/-- What a run writes in one text, unless a fault stops it. -/
def text (r : Run) : Except Fault Text :=
  match r.fault with
  | none => .ok r.writes.flatten
  | some f => .error f

/-- A run for each item in order. -/
def each {α : Type} (f : α → Run) : List α → Run
  | [] => done
  | x :: xs => (f x).andThen (each f xs)

/-- A run that depends on an answer which may be a fault. -/
def answer {α : Type} (x : Except Fault α) (f : α → Run) : Run :=
  match x with
  | .ok a => f a
  | .error e => fail e

@[simp] theorem done_andThen (a : Run) : done.andThen a = a := rfl

@[simp] theorem andThen_done (a : Run) : a.andThen done = a := by
  cases a with
  | mk ws f => cases f <;> simp [andThen, done]

theorem andThen_assoc (a b c : Run) : (a.andThen b).andThen c = a.andThen (b.andThen c) := by
  cases a with
  | mk ws f =>
    cases f with
    | some e => rfl
    | none =>
      cases b with
      | mk vs g => cases g <;> simp [andThen]

/-- The text of one run and then that of another. -/
theorem text_andThen (a b : Run) :
    (a.andThen b).text = do
      let s ← a.text
      let t ← b.text
      return s ++ t := by
  obtain ⟨ws, _ | f⟩ := a
  · obtain ⟨vs, _ | g⟩ := b
    · simp [andThen, text, Bind.bind, Except.bind, Pure.pure, Except.pure]
    · rfl
  · rfl

@[simp] theorem each_append {α : Type} (f : α → Run) (xs ys : List α) :
    each f (xs ++ ys) = (each f xs).andThen (each f ys) := by
  induction xs with
  | nil => rfl
  | cons x xs ih => simp [each, ih, andThen_assoc]

end Run

/-- What a request comes to where only texts can be written. -/
def Request.run : Request → Run
  | asIs t => .write t
  | escaped t => .write (Entities.encode t)
  | number n => .writeShort n.text?

namespace Script

/-- What the requests come to where only texts can be written. -/
def run (a : Script) : Run := (Run.each Request.run a.requests).andThen ⟨[], a.fault⟩

@[simp] theorem run_done : done.run = .done := rfl

@[simp] theorem run_ask (r : Request) : (ask r).run = r.run := by
  simp only [run, ask, Run.each, Run.andThen_done]
  exact Run.andThen_done r.run

@[simp] theorem run_fail (f : Fault) : (fail f).run = .fail f := rfl

/-- One script and then another come to one run and then the other. -/
@[simp] theorem run_andThen (a b : Script) : (a.andThen b).run = a.run.andThen b.run := by
  obtain ⟨rs, _ | f⟩ := a
  · simp only [run, andThen, Run.each_append, Run.andThen_assoc]
    rfl
  · have hstop : ∀ r : Run, (r.andThen ⟨[], some f⟩).andThen b.run = r.andThen ⟨[], some f⟩ := by
      intro r
      rw [Run.andThen_assoc]
      rfl
    simp only [run, andThen]
    exact (hstop _).symm

@[simp] theorem run_each {α : Type} (f : α → Script) (xs : List α) :
    (each f xs).run = Run.each (fun x => (f x).run) xs := by
  induction xs with
  | nil => rfl
  | cons x xs ih => rw [each, run_andThen, ih, Run.each]

@[simp] theorem run_answer {α : Type} (x : Except Fault α) (f : α → Script) :
    (answer x f).run = .answer x fun a => (f a).run := by
  cases x <;> rfl

end Script

end Stencil
