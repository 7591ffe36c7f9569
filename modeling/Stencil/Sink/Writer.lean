import Stencil.Render.Interpretation
import Stencil.Sink.Basic

namespace Stencil

/-- A destination that says of each write whether it takes it, and may change either way. A sink is
a writer that stays as it is when it refuses. -/
structure Writer (σ : Type) where
  write : Text → σ → σ × Option SinkError
  /-- Takes note of an expected size. -/
  reserve : Int → σ → σ := fun _ s => s

namespace Writer

variable {σ : Type}

/-- The writer that a sink is. -/
def ofSink (σ : Type) [Sink σ] : Writer σ where
  write t s :=
    match Sink.write s t with
    | .ok s' => (s', none)
    | .error e => (s, some e)
  reserve n s := Sink.reserve s n

/-- Takes note of a capacity, if there is one. -/
def announce (w : Writer σ) (c : Except Fault Int) (s : σ) : σ :=
  match c with
  | .ok n => w.reserve n s
  | .error _ => s

/-- Asks for writes in order, up to the first that is refused. -/
def writeAll (w : Writer σ) : List Text → σ → σ × Option SinkError
  | [], s => (s, none)
  | t :: ts, s =>
    match w.write t s with
    | (s', none) => w.writeAll ts s'
    | refused => refused

/-- The state after some writes were asked for in order, refused or not. -/
def after (w : Writer σ) (ts : List Text) (s : σ) : σ := ts.foldl (fun s t => (w.write t s).1) s

/-- No write is ever refused. -/
def NeverRefuses (w : Writer σ) : Prop := ∀ t s, (w.write t s).2 = none

/-- From this state on a number of writes are taken, whatever they are, and the next one is
refused. What happens to later ones is left open. -/
def RefusesAfter (w : Writer σ) (error : SinkError) : Nat → σ → Prop
  | 0, s => ∀ t, (w.write t s).2 = some error
  | k + 1, s => ∀ t, (w.write t s).2 = none ∧ w.RefusesAfter error k (w.write t s).1

end Writer

/-- The writes of a run, handed to a writer, and how that ends. -/
def Run.handTo {σ : Type} (r : Run) (w : Writer σ) (s : σ) : σ × Option Failure :=
  match w.writeAll r.writes s with
  | (s', some e) => (s', some (.sink e))
  | (s', none) => (s', r.fault.map .fault)

/-- The steps of a walk as what they do to the state of a writer. Nothing is done after a
failure. -/
def Interpretation.direct {σ : Type} (w : Writer σ) (convert : Conversion) :
    Interpretation (σ → σ × Option Failure) where
  done s := (s, none)
  literal t s := ((w.write t s).1, (w.write t s).2.map .sink)
  shown escaped name v := (v.showTag convert escaped name).handTo w
  asked r := r.run.handTo w
  plan inverted name v := v.tagPlan convert inverted name
  fail f s := (s, some (.fault f))
  andThen a b s :=
    match a s with
    | (s', none) => b s'
    | failed => failed

/-- Renders a value write by write, after the writer is told what size to expect. If there is none,
nothing is asked for. Each write is asked for where the walk comes to it, and the first refusal ends
the walk wherever it is. -/
def Template.renderBy {σ : Type} (t : Template) (convert : Conversion) (v : Value) (w : Writer σ)
    (s : σ) : σ × Option Failure :=
  match t.capacity v with
  | .ok n => t.renderOn (.direct w convert) v (w.reserve n s)
  | .error f => (s, some (.fault f))

end Stencil
