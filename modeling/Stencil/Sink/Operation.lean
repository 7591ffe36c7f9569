import Stencil.Data.Notation
import Stencil.Sink.Basic

namespace Stencil

/-- What can be done with a sink, which stays usable if it refuses. Any value can be written in its
plain form, whether or not a template would show it. -/
inductive Operation where
  /-- A text as it is. -/
  | unescaped (t : Text)
  /-- The plain form of a value with entities. -/
  | escaped (n : Notation)
  /-- The plain form of a value. -/
  | plain (n : Notation)
  | reserve (n : Int)
  /-- The HTML of a Markdown text. -/
  | markdown (t : Text)
  | render (t : Template) (v : Value)

namespace Operation

/-- What an operation writes. -/
def run (convert : Conversion) : Operation → Run
  | unescaped t => .write t
  | escaped n => .writeShort (n.plain?.map Entities.encode)
  | plain n => .writeShort n.plain?
  | reserve _ => .done
  | markdown t => .answer (convert t) .write
  | render t v => t.renderWith convert v

/-- The size that an operation announces before it writes. -/
def size? : Operation → Option Int
  | reserve n => some n
  | render t v => (t.capacity v).toOption
  | _ => none

variable {σ : Type} [Sink σ]

/-- Carries out an operation. -/
def apply (convert : Conversion) (o : Operation) (s : σ) : σ × Option Failure :=
  (o.run convert).deliver (match o.size? with | some n => Sink.reserve s n | none => s)

end Operation

end Stencil
