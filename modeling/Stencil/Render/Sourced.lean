import Stencil.Render.Interpretation

namespace Stencil

/-- Where a write comes from: the literal text of a block, a variable tag and the value that the tag
was come to with, or the section of a custom value. -/
inductive Origin where
  | literal
  | tag (escaped : Bool) (name : FieldName) (v : Value)
  | nested

structure SourcedWrite where
  origin : Origin
  text : Text

/-- A run in which each write names where it comes from. -/
structure SourcedRun where
  writes : List SourcedWrite
  fault : Option Fault := none

namespace SourcedRun

/-- A run all of whose writes come from one place. -/
def ofRun (origin : Origin) (r : Run) : SourcedRun := ⟨r.writes.map fun t => ⟨origin, t⟩, r.fault⟩

/-- One run and then another, unless the first one stops. -/
def andThen (a b : SourcedRun) : SourcedRun :=
  match a.fault with
  | none => ⟨a.writes ++ b.writes, b.fault⟩
  | some _ => a

/-- The run alone. -/
def erase (a : SourcedRun) : Run := ⟨a.writes.map SourcedWrite.text, a.fault⟩

theorem erase_ofRun (origin : Origin) (r : Run) : (ofRun origin r).erase = r := by
  simp [ofRun, erase, Function.comp_def]

theorem erase_andThen (a b : SourcedRun) : (a.andThen b).erase = a.erase.andThen b.erase := by
  obtain ⟨ws, f⟩ := a
  cases f <;> simp [andThen, erase, Run.andThen]

end SourcedRun

/-- The steps of a walk as runs with sources. -/
def Interpretation.sourced (convert : Conversion) : Interpretation SourcedRun where
  done := ⟨[], none⟩
  literal t := ⟨[⟨.literal, t⟩], none⟩
  shown escaped name v := .ofRun (.tag escaped name v) (v.showTag convert escaped name)
  asked r := .ofRun .nested r.run
  plan inverted name v := v.tagPlan convert inverted name
  fail f := ⟨[], some f⟩
  andThen := .andThen

/-- Renders the whole template with a value and keeps where each write comes from. -/
def Template.renderSourced (t : Template) (convert : Conversion) (v : Value) : SourcedRun :=
  t.renderOn (.sourced convert) v

end Stencil
