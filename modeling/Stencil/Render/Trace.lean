import Stencil.Render.Interpretation

namespace Stencil

/-- A write and where it comes from. -/
inductive Piece where
  | literal (t : Text)
  | shown (t : Text)
deriving DecidableEq

namespace Piece

def text : Piece → Text
  | literal t => t
  | shown t => t

/-- Writes entities in what a variable showed. -/
def escape : Piece → Piece
  | literal t => literal t
  | shown t => shown (Entities.encode t)

end Piece

/-- A run in which each write remembers whether it is literal text of the template. -/
structure Trace where
  pieces : List Piece
  fault : Option Fault := none
deriving DecidableEq

namespace Trace

/-- What a variable showed, or a value wrote for itself. -/
def ofShown (r : Run) : Trace := ⟨r.writes.map .shown, r.fault⟩

/-- One trace and then another, unless the first one stops. -/
def andThen (a b : Trace) : Trace :=
  match a.fault with
  | none => ⟨a.pieces ++ b.pieces, b.fault⟩
  | some _ => a

/-- The run, whose writes say nothing of where they come from. -/
def erase (a : Trace) : Run := ⟨a.pieces.map Piece.text, a.fault⟩

/-- Writes entities in whatever the variables showed. -/
def escape (a : Trace) : Trace := ⟨a.pieces.map Piece.escape, a.fault⟩

theorem erase_ofShown (r : Run) : (ofShown r).erase = r := by
  simp [ofShown, erase, Piece.text, Function.comp_def]

theorem erase_andThen (a b : Trace) : (a.andThen b).erase = a.erase.andThen b.erase := by
  obtain ⟨ps, f⟩ := a
  cases f <;> simp [andThen, erase, Run.andThen]

theorem escape_andThen (a b : Trace) : (a.andThen b).escape = a.escape.andThen b.escape := by
  obtain ⟨ps, f⟩ := a
  cases f <;> simp [andThen, escape]

theorem mem_andThen {p : Piece} {a b : Trace} (hp : p ∈ (a.andThen b).pieces) :
    p ∈ a.pieces ∨ p ∈ b.pieces := by
  obtain ⟨ps, f⟩ := a
  cases f with
  | none => exact List.mem_append.1 hp
  | some f => exact .inl hp

end Trace

/-- The steps of a walk as traces. -/
def Interpretation.traces (convert : Conversion) : Interpretation Trace where
  done := ⟨[], none⟩
  literal t := ⟨[.literal t], none⟩
  shown escaped name v := .ofShown (v.showTag convert escaped name)
  asked r := .ofShown r.run
  plan inverted name v := v.tagPlan convert inverted name
  fail f := ⟨[], some f⟩
  andThen := .andThen

namespace Template

/-- Renders the whole template with a value and keeps where each write comes from. -/
def trace (t : Template) (convert : Conversion) (v : Value) : Trace :=
  t.renderOn (.traces convert) v

end Template

end Stencil
