import Stencil.Render.Walk

namespace Stencil

/-- Why a sink refuses a write. -/
inductive SinkError where
  | diskFull
  | noSpace
  /-- The character set of a file lacks a character of the text. -/
  | unencodable
  /-- The system below a counted stream refused a write. -/
  | output (cause : SinkError)
deriving DecidableEq

namespace SinkError

def message : SinkError → Text
  | diskFull => Text.of "disk full"
  | noSpace => Text.of "No space left on device"
  | unencodable => Text.of "character is not in the character set"
  | output cause => Text.of "Failed to write output: " ++ cause.message

/-- Whether it is the system that refuses, and not the text that does not fit. -/
def isSystem : SinkError → Bool
  | diskFull => true
  | noSpace => true
  | _ => false

end SinkError

/-- What a render writes to. A sink takes one text at a time or refuses it, and it may be told
beforehand how much will come. A refused write changes nothing, and nothing is written after it. -/
class Sink (σ : Type) where
  write : σ → Text → Except SinkError σ
  /-- Takes note of an expected size, which changes no write. -/
  reserve : σ → Int → σ := fun s _ => s

/-- Why a render ends early. -/
inductive Failure where
  | sink (e : SinkError)
  | fault (f : Fault)
deriving DecidableEq

namespace Sink

variable {σ : Type} [Sink σ]

/-- Takes note of a capacity, if there is one. -/
def announce (s : σ) : Except Fault Int → σ
  | .ok n => reserve s n
  | .error _ => s

/-- A sink that takes no note of sizes is not changed by one. -/
theorem announce_of_reserve (hreserve : ∀ (s : σ) n, reserve s n = s) (s : σ)
    (c : Except Fault Int) : announce s c = s := by
  cases c with
  | ok n => exact hreserve s n
  | error f => rfl

/-- Writes texts in order up to the first refusal. -/
def writeAll (s : σ) : List Text → σ × Option SinkError
  | [] => (s, none)
  | t :: ts =>
    match write s t with
    | .ok s' => writeAll s' ts
    | .error e => (s, some e)

theorem writeAll_append (s : σ) (ts us : List Text) :
    writeAll s (ts ++ us) =
      match writeAll s ts with
      | (s', none) => writeAll s' us
      | r => r := by
  induction ts generalizing s with
  | nil => rfl
  | cons t ts ih =>
    simp only [List.cons_append, writeAll]
    cases write s t with
    | error e => rfl
    | ok s' => exact ih s'

end Sink

namespace Run

variable {σ : Type} [Sink σ]

/-- Hands the writes of a run to a sink. The fault of the run shows if every write is taken. -/
def deliver (r : Run) (s : σ) : σ × Option Failure :=
  match Sink.writeAll s r.writes with
  | (s', some e) => (s', some (.sink e))
  | (s', none) => (s', r.fault.map .fault)

end Run

namespace Template

/-- Renders a value to a sink, which is first told what size to expect. If there is none, nothing is
written. -/
def renderTo {σ : Type} [Sink σ] (t : Template) (convert : Conversion) (v : Value) (s : σ) :
    σ × Option Failure :=
  (t.renderWith convert v).deliver (Sink.announce s (t.capacity v))

end Template

end Stencil
