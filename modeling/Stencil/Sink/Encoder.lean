import Stencil.Sink.Writer

namespace Stencil

/-- A writer that may have ways of its own to write entities and numbers. A plain writer can be
asked for texts only: it is handed the text with its entities, and the text of the number. -/
structure Encoder (σ : Type) extends Writer σ where
  escaped : Text → σ → σ × Option Failure := fun t => (Request.escaped t).run.handTo toWriter
  number : Number → σ → σ × Option Failure := fun n => (Request.number n).run.handTo toWriter

namespace Encoder

variable {σ : Type}

/-- The encoder that a writer is. -/
def ofWriter (w : Writer σ) : Encoder σ := { toWriter := w }

/-- Does what is asked for. -/
def carryOut (e : Encoder σ) : Request → σ → σ × Option Failure
  | .asIs t => (Request.asIs t).run.handTo e.toWriter
  | .escaped t => e.escaped t
  | .number n => e.number n

/-- Does what is asked for in order, up to the first failure. -/
def carryOutAll (e : Encoder σ) : List Request → σ → σ × Option Failure
  | [], s => (s, none)
  | r :: rs, s =>
    match e.carryOut r s with
    | (s', none) => e.carryOutAll rs s'
    | failed => failed

end Encoder

/-- The requests of a script, made to an encoder, and how that ends. -/
def Script.handTo {σ : Type} (a : Script) (e : Encoder σ) (s : σ) : σ × Option Failure :=
  match e.carryOutAll a.requests s with
  | (s', none) => (s', a.fault.map .fault)
  | failed => failed

/-- The steps of a walk as what an encoder is asked for. Nothing is done after a failure. -/
def Interpretation.asking {σ : Type} (e : Encoder σ) (convert : Conversion) :
    Interpretation (σ → σ × Option Failure) where
  done s := (s, none)
  literal t := e.carryOut (.asIs t)
  shown escaped name v := (v.scriptTag convert escaped name).handTo e
  asked := e.carryOut
  plan inverted name v := v.tagPlan convert inverted name
  fail f s := (s, some (.fault f))
  andThen a b s :=
    match a s with
    | (s', none) => b s'
    | failed => failed

/-- Renders a value request by request, after the encoder is told what size to expect. If there is
none, nothing is asked for. -/
def Template.renderInto {σ : Type} (t : Template) (convert : Conversion) (v : Value)
    (e : Encoder σ) (s : σ) : σ × Option Failure :=
  match t.capacity v with
  | .ok n => t.renderOn (.asking e convert) v (e.reserve n s)
  | .error f => (s, some (.fault f))

end Stencil
