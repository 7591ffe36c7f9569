import Stencil.Sink.Encoder
import Stencil.Sink.Operation
import Stencil.Sink.Stream

namespace Stencil

namespace Writer

variable {σ : Type}

/-- Counts the code points of what another writer takes, and reports its refusals. -/
def counted (w : Writer σ) : Writer (Counted σ) where
  write t c :=
    match w.write t c.stream with
    | (stream, none) => (⟨stream, c.written + t.length⟩, none)
    | (stream, some e) => (⟨stream, c.written⟩, some (Counted.report e))

/-- A stream of which `content` tells what it holds: what it has taken, in order. Only the system
refuses a write, of which nothing is held then. When it does so is left open. -/
structure IsStream (w : Writer σ) (content : σ → Text) : Prop where
  takes : ∀ {t s s'}, w.write t s = (s', none) → content s' = content s ++ t
  refuses : ∀ {t s s' e}, w.write t s = (s', some e) → content s' = content s ∧ e.isSystem = true

/-- The texts that a writer takes if it is asked for some of them in order, up to the first that is
refused. -/
def accepted (w : Writer σ) : List Text → σ → List Text
  | [], _ => []
  | t :: ts, s =>
    match w.write t s with
    | (s', none) => t :: w.accepted ts s'
    | _ => []

end Writer

/-- The request for a text, or a fault if there is none because a number in it is too long. -/
def Script.askShort (request : Text → Request) (t : Option Text) : Script :=
  match t with
  | some t => .ask (request t)
  | none => .fail .tooManyDigits

namespace Operation

variable {σ : Type}

/-- Carries out an operation on an encoder, request by request. -/
def perform (convert : Conversion) (e : Encoder σ) (s : σ) : Operation → σ × Option Failure
  | unescaped t => (Script.ask (.asIs t)).handTo e s
  | escaped n => (Script.askShort .escaped n.plain?).handTo e s
  | plain n => (Script.askShort .asIs n.plain?).handTo e s
  | reserve n => (e.reserve n s, none)
  | markdown t => (Value.scriptText convert .markup t).handTo e s
  | render t v => t.renderInto convert v e s

/-- What some operations leave. Each of them finds what those before it have left, refused or
not. -/
def performAll (convert : Conversion) (e : Encoder σ) (s : σ) (os : List Operation) : σ :=
  os.foldl (fun s o => (o.perform convert e s).1) s

/-- The writes that a stream takes in the course of some operations on the counted stream. -/
def acceptedAll (convert : Conversion) (w : Writer σ) : List Operation → Counted σ → List Text
  | [], _ => []
  | o :: os, c =>
    w.accepted (o.run convert).writes c.stream ++
      acceptedAll convert w os (o.perform convert (.ofWriter w.counted) c).1

end Operation

end Stencil
