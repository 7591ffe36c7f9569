import Stencil.Cli.Sequence

namespace Stencil

namespace Cli

namespace Outcome

/-- The outcome with other time stamps. -/
def dated (o : Outcome) (moment : Log.Moment) : Outcome :=
  { o with records := o.records.map fun r => r.dated moment }

variable (m : Log.Moment)

@[simp] theorem dated_ended (exit : Nat) (output : Text) :
    (ended exit output).dated m = ended exit output := rfl

@[simp] theorem dated_crashed (c : Crash) : (crashed c).dated m = crashed c := rfl

@[simp] theorem dated_refused (r : Refusal) : (refused r).dated m = refused r := by cases r <;> rfl

@[simp] theorem dated_after (records : List Log.Record) (o : Outcome) :
    (o.after records).dated m = (o.dated m).after (records.map fun r => r.dated m) := by
  simp [after, dated]

/-- An outcome without records has no time stamps. -/
theorem dated_of_quiet {o : Outcome} (hquiet : o.records = []) : o.dated m = o := by
  obtain ⟨exit, output, records, crash⟩ := o
  cases hquiet
  rfl

end Outcome

section Dated

variable (lib : Libraries) (w : World) (m : Log.Moment)

@[simp] theorem World.files_dated : (w.dated m).files = w.files := rfl

@[simp] theorem World.env_dated : (w.dated m).env = w.env := rfl

@[simp] theorem World.terminal_dated : (w.dated m).terminal = w.terminal := rfl

@[simp] theorem World.shown_dated (t : Text) : (w.dated m).shown t = w.shown t := rfl

@[simp] theorem World.loaded_dated (c : Config) :
    (w.dated m).loaded c = (w.loaded c).map fun r => r.dated m := by
  unfold World.loaded
  split <;> rfl

@[simp] theorem World.echoed_dated (t : Text) :
    (w.dated m).echoed t = (w.echoed t).dated m := by
  unfold World.echoed
  rw [World.shown_dated]
  split <;> rfl

@[simp] theorem World.rendering_dated (t : Template) (v : Value) :
    (w.dated m).rendering t v = (w.rendering t v).map fun r => r.dated m := by
  unfold World.rendering
  cases t.capacity v <;> rfl

/-- What is reported does not depend on the time but for its stamp. -/
theorem configFailure_dated (e : Config.LoadError) :
    configFailure (w.dated m) e = (configFailure w e).dated m := by
  unfold configFailure
  split
  · rfl
  · split <;> rfl
  · split <;> rfl
  · rfl
  · split <;> rfl

theorem inputFailure_dated (e : TextFileError) :
    inputFailure (w.dated m) e = (inputFailure w e).dated m := by
  unfold inputFailure
  split
  · split <;> rfl
  · rfl

@[simp] theorem readTemplate_dated (c : Config) (p : Path) :
    readTemplate lib (w.dated m) c p = readTemplate lib w c p := rfl

theorem readValue_dated (c : Config) (data : Option Path) :
    readValue lib (w.dated m) c data = (readValue lib w c data).mapError fun o => o.dated m := by
  unfold readValue
  cases data with
  | none => rfl
  | some p =>
    simp only [World.files_dated]
    cases w.files.openFile lib.codecs c.charset p with
    | error e => exact congrArg Except.error (inputFailure_dated w m e)
    | ok opened =>
      simp only
      split
      · split <;> rfl
      · rfl
      · rfl

theorem renderFailure_dated (e : ToFileError) :
    renderFailure (w.dated m) e = (renderFailure w e).dated m := by
  unfold renderFailure
  split
  · split <;> rfl
  · rfl
  · rfl
  · rfl
  · rfl

theorem renderToOutput_dated (c : Config) (t : Template) (v : Value) :
    renderToOutput lib (w.dated m) c t v = (renderToOutput lib w c t v).dated m := by
  unfold renderToOutput
  rw [Outcome.dated_after, World.rendering_dated]
  congr 1
  cases t.renderText (lib.markdown c.extensions) v with
  | error e => exact renderFailure_dated w m (.render e)
  | ok rendered => exact World.echoed_dated w m rendered

/-- What a run comes to, with other time stamps. -/
def redate (r : World × Outcome) (moment : Log.Moment) : World × Outcome :=
  (r.1.dated moment, r.2.dated moment)

theorem renderToPath_dated (c : Config) (t : Template) (v : Value) (p : Path) :
    renderToPath lib (w.dated m) c t v p = redate (renderToPath lib w c t v p) m := by
  unfold renderToPath redate
  simp only [World.files_dated]
  refine Prod.ext rfl ?_
  generalize t.renderToFile (lib.markdown c.extensions) v lib.codecs c.charset p w.files = r
  obtain ⟨fs, failure⟩ := r
  match failure with
  | none =>
    simp only [Outcome.dated_after, World.rendering_dated, List.map_append]
    rfl
  | some (.file e) => exact renderFailure_dated w m (.file e)
  | some (.render e) =>
    simp only [Outcome.dated_after, renderFailure_dated, World.rendering_dated]

/-- A render does the same at any time, up to the stamps of its records. -/
theorem runRender_dated (c : Config) (template : Path) (data output : Option Path) :
    runRender lib (w.dated m) c template data output =
      redate (runRender lib w c template data output) m := by
  unfold runRender
  cases outputPath c output with
  | error crash => rfl
  | ok target =>
    simp only [readTemplate_dated]
    cases readTemplate lib w c template with
    | error e => exact Prod.ext rfl (inputFailure_dated w m e)
    | ok compiled =>
      match compiled with
      | .error (.unhashable _) => rfl
      | .error (.malformed e) => rfl
      | .ok t =>
        simp only [readValue_dated, redate, Outcome.dated_after]
        cases readValue lib w c data with
        | error o => rfl
        | ok v =>
          cases target with
          | none =>
            have houtput := renderToOutput_dated lib w m c t v
            exact congrArg (fun o => (w.dated m, Outcome.after _ o)) houtput
          | some p =>
            have hpath := renderToPath_dated lib w m c t v p
            exact congrArg (fun r : World × Outcome => (r.1, r.2.after _)) hpath

/-- And so does a check. -/
theorem runCheck_dated (c : Config) (template : Path) :
    runCheck lib (w.dated m) c template = (runCheck lib w c template).dated m := by
  unfold runCheck
  simp only [readTemplate_dated, Outcome.dated_after]
  cases readTemplate lib w c template with
  | error e => rfl
  | ok compiled =>
    match compiled with
    | .error (.unhashable _) => rfl
    | .error (.malformed e) => rfl
    | .ok t =>
      simp only [World.echoed_dated, Outcome.dated_after]
      rfl

/-- And the making of a configuration. -/
theorem runInit_dated (force : Bool) :
    runInit (w.dated m) force = redate (runInit w force) m := by
  unfold runInit
  simp only [World.files_dated]
  by_cases hthere : w.files.holds localConfig && !force
  · simp only [hthere, if_true]
    rfl
  · simp only [hthere, if_false, Bool.false_eq_true]
    rcases w.files.ensureDirectory localConfig.parent with ⟨fs, _ | e⟩
    · simp only
      cases fs.openEmpty localConfig with
      | error e => rfl
      | ok opened => rfl
    · rfl

/-- A command does the same at any time, up to the stamps of its records. -/
theorem runCommand_dated (s : Session) (command : Command) :
    s.runCommand lib (w.dated m) command = redate (s.runCommand lib w command) m := by
  cases command with
  | render template data output => exact runRender_dated lib w m s.config template data output
  | check template => exact Prod.ext rfl (runCheck_dated lib w m s.config template)
  | init force => exact runInit_dated w m force

/-- And so does a whole run once its options are read. The session that it leaves behind does not
depend on the time at all. -/
theorem runNamed_dated (s : Session) (g : Global) (name : Command.Name) (args : List Text) :
    runNamed lib s (w.dated m) g name args =
      ((runNamed lib s w g name args).1, redate (runNamed lib s w g name args).2 m) := by
  unfold runNamed
  simp only [World.files_dated, World.env_dated, World.terminal_dated]
  cases Config.load lib.document w.files w.env (g.config.map Path.ofText) true with
  | error e => exact congrArg (fun o => (_, _, o)) (configFailure_dated w m e)
  | ok c =>
    cases lib.parser.command w.files w.env name args with
    | error e => simp [redate]
    | ok command => simp [redate, runCommand_dated]

end Dated

/-- A run whose arguments are refused says nothing in the log, which is not set up. -/
theorem quiet_of_refused (e : Refusal) : (Outcome.refused e).records = [] := by
  cases e <;> rfl

section Run

variable (lib : Libraries)

/-- Only the time stamps tell when a run takes place. -/
theorem run_dated (s : Session) (w : World) (m : Log.Moment) (args : List Text) :
    run lib s (w.dated m) args = ((run lib s w args).1, redate (run lib s w args).2 m) := by
  unfold run
  simp only [World.files_dated, World.env_dated]
  cases lib.parser.options w.files w.env args with
  | error e => simp only [redate, Outcome.dated_of_quiet m (quiet_of_refused e)]
  | ok named => exact runNamed_dated lib w m s named.1 named.2.1 named.2.2

/-- A run with a name does and says the same whatever is in memory. -/
theorem runNamed_forgets (s s' : Session) (w : World) (g : Global) (name : Command.Name)
    (args : List Text) :
    (runNamed lib s w g name args).2 = (runNamed lib s' w g name args).2 ∧
      (runNamed lib s w g name args).1.logger = (runNamed lib s' w g name args).1.logger := by
  unfold runNamed
  cases Config.load lib.document w.files w.env (g.config.map Path.ofText) true with
  | error e => exact ⟨rfl, rfl⟩
  | ok c => exact ⟨rfl, rfl⟩

/-- What is in memory changes nothing about a run. Only a run that logs nothing may leave another
logger there. -/
theorem run_forgets (s s' : Session) (w : World) (args : List Text) :
    (run lib s w args).2 = (run lib s' w args).2 ∧
      ((run lib s w args).2.2.records = [] ∨
        (run lib s w args).1.logger = (run lib s' w args).1.logger) := by
  unfold run
  cases lib.parser.options w.files w.env args with
  | error e => exact ⟨rfl, .inl (quiet_of_refused e)⟩
  | ok named =>
    obtain ⟨hsame, hlogger⟩ := runNamed_forgets lib s s' w named.1 named.2.1 named.2.2
    exact ⟨hsame, .inr hlogger⟩

/-- What is seen of a run does not show when it was made. -/
theorem seen_redate (stamp m : Log.Moment) (s : Session) (r : World × Outcome) :
    seen stamp (s, redate r m) = seen stamp (s, r) := by
  simp only [seen, redate, Outcome.dated, World.files_dated, List.map_map]
  rfl

/-- What is seen of a run depends on the files and its arguments, not on memory and not on time. -/
theorem seen_run (stamp now now' : Log.Moment) (s s' : Session) (w : World) (args : List Text) :
    seen stamp (run lib s (w.dated now) args) = seen stamp (run lib s' (w.dated now') args) := by
  rw [run_dated, run_dated, seen_redate, seen_redate]
  obtain ⟨hsame, hlog⟩ := run_forgets lib s s' w args
  simp only [seen, ← hsame]
  congr 1
  rcases hlog with hquiet | hlogger
  · simp only [hquiet, List.map_nil]
  · rw [hlogger]

/-- Runs in fresh processes are seen alike at any time. -/
theorem runApart_dated (stamp m : Log.Moment) (clock : Nat → Log.Moment) (w : World)
    (runs : List (List Text)) :
    runApart lib stamp clock (w.dated m) runs = runApart lib stamp clock w runs := by
  cases runs <;> rfl

/-- And so are runs in one process. -/
theorem runTogether_dated (stamp m : Log.Moment) (clock : Nat → Log.Moment) (s : Session) (w : World)
    (runs : List (List Text)) :
    runTogether lib stamp clock s (w.dated m) runs = runTogether lib stamp clock s w runs := by
  cases runs <;> rfl

/-- In one process, whatever is in its memory, each run is seen as if it had a process of its own
and the files that are there by then, whatever the libraries are. At one moment the very time stamps
are the same. -/
theorem runs_share_files_only (s : Session) (w : World) :
    (∀ (stamp : Log.Moment) (clock clock' : Nat → Log.Moment) (runs : List (List Text)),
      runTogether lib stamp clock s w runs = runApart lib stamp clock' w runs) ∧
    ∀ args, (run lib s w args).2 = (run lib {} w args).2 ∧
      ∀ r ∈ (run lib s w args).2.2.records,
        (run lib s w args).1.logger.emit [] r = (run lib {} w args).1.logger.emit [] r := by
  refine ⟨fun stamp clock clock' runs => ?_, fun args => ?_⟩
  · induction runs generalizing s w clock clock' with
    | nil => rfl
    | cons args runs ih =>
      rw [runTogether, runApart, seen_run lib stamp (clock 0) (clock' 0) s {} w args]
      congr 1
      -- Both processes leave the same files behind, at different moments.
      rw [run_dated, run_dated, ← (run_forgets lib s {} w args).1]
      simp only [redate]
      rw [runTogether_dated, runApart_dated]
      exact ih _ _ _ _
  · obtain ⟨hsame, hlog⟩ := run_forgets lib s {} w args
    refine ⟨hsame, fun r hr => ?_⟩
    rcases hlog with hquiet | hlogger
    · rw [hquiet] at hr
      cases hr
    · rw [hlogger]

end Run

end Cli

end Stencil
