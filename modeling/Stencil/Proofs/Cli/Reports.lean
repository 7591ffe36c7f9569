import Stencil.Cli.Attempt
import Stencil.Cli.Standard
import Stencil.Proofs.Config.Load
import Stencil.Proofs.Results

namespace Stencil

namespace Cli

/-- No record is about an error. -/
def Outcome.Quiet (o : Outcome) : Prop := ∀ r ∈ o.records, r.level < Log.Level.error

/-- An outcome says some text about a mishap: as an error in the log, or in the output if a template
that is checked does not compile. -/
def Says (w : World) (l : Log.Logger) (job : Job) (o : Outcome) (m : Mishap) (text : Text) : Prop :=
  match job, m with
  | .check _, .compile _ => o.output = w.shown (text ++ Log.lineEnd)
  | _, _ =>
    w.record "" Log.Level.error text ∈ o.records ∧
      l.writes (w.record "" Log.Level.error text) = true

/-- The outcome of a run whose steps come to something. -/
inductive Answers (w : World) (l : Log.Logger) (job : Job) (o : Outcome) :
    Except Mishap Unit → Prop
  | done (hexit : o.exit = 0) (hcrash : o.crash = none) (hquiet : o.Quiet) :
      Answers w l job o (.ok ())
  | reported {m : Mishap} {text : Text} (hhandled : job.handles m = true)
      (hreport : m.report? job = some text) (hexit : o.exit = 1) (hcrash : o.crash = none)
      (htext : Says w l job o m text) : Answers w l job o (.error m)
  | uncaught {m : Mishap} {c : Crash} (hhandled : job.handles m = false) (hexit : o.exit = 1)
      (hcrash : o.crash = some c) (houtput : o.output = []) (hquiet : o.Quiet) :
      Answers w l job o (.error m)

section Outcomes

variable {w : World} {l : Log.Logger} {job : Job} {o : Outcome} {m : Mishap}

theorem Outcome.Quiet.after {records : List Log.Record} (hquiet : o.Quiet)
    (hrecords : ∀ r ∈ records, r.level < Log.Level.error) : (o.after records).Quiet := by
  intro r hr
  rcases List.mem_append.1 hr with hr | hr
  · exact hrecords r hr
  · exact hquiet r hr

theorem Says.after {text : Text} (htext : Says w l job o m text) (records : List Log.Record) :
    Says w l job (o.after records) m text := by
  unfold Says at htext ⊢
  split at htext
  · exact htext
  · exact ⟨List.mem_append_right _ htext.1, htext.2⟩

section Levels

variable (w : World)

@[simp] theorem World.record_below (part : String) {level : Log.Level} (text : Text) :
    (w.record part level text).level < Log.Level.error ↔ level < Log.Level.error := Iff.rfl

@[simp] theorem World.compiled_below (t : Template) : (w.compiled t).level < Log.Level.error :=
  (w.record_below _ _).2 (by decide)

end Levels

/-- What is logged before, if it is no error, changes nothing. -/
theorem Answers.after {x : Except Mishap Unit} (h : Answers w l job o x) {records : List Log.Record}
    (hrecords : ∀ r ∈ records, r.level < Log.Level.error) : Answers w l job (o.after records) x := by
  cases h with
  | done hexit hcrash hquiet => exact .done hexit hcrash (hquiet.after hrecords)
  | reported hhandled hreport hexit hcrash htext =>
    exact .reported hhandled hreport hexit hcrash (htext.after records)
  | uncaught hhandled hexit hcrash houtput hquiet =>
    exact .uncaught hhandled hexit hcrash houtput (hquiet.after hrecords)

end Outcomes

section Stages

variable {lib : Libraries} {w : World} {l : Log.Logger}
  (hlog : ∀ text, l.writes (w.record "" Log.Level.error text) = true)

section Render

variable (template : Path) (data output : Option Path)

end Render

end Stages

/-- A working directory with one file. -/
def World.ofFile (name : String) (content : Bytes) : World where
  files := { root := .directory [(Text.of name, .file content)] }

end Cli

end Stencil
