import Stencil.Cli.Attempt
import Stencil.Cli.Standard
import Stencil.Proofs.FileSystem.Confinement
import Stencil.Proofs.Results

namespace Stencil

/-- A path that is written out has no names that stay where they are. -/
theorem Path.moving_ofText (t : Text) : Way.Moving (Path.ofText t).parts := by
  intro n hn
  simpa using (List.mem_filter.1 hn).2

namespace Cli

section Render

variable {lib : Libraries} {w : World} {c : Config}

/-- The value that a render is given is the one that reading it step by step gives. -/
theorem readValue_toOption (lib : Libraries) (w : World) (c : Config) (data : Option Path) :
    (readValue lib w c data).toOption = (attemptValue lib w c data).toOption := by
  cases data with
  | none => rfl
  | some p =>
    simp only [readValue, attemptValue]
    cases w.files.openFile lib.codecs c.charset p with
    | error e => rfl
    | ok opened =>
      simp only [mapError_ok, Bind.bind, Except.bind]
      cases lib.fileDocument opened.1 opened.2 with
      | error e => rfl
      | ok d => rcases d with (_ | _ | _ | _ | _ | _) | _ | _ <;> rfl

/-- The files after a render has come to its output at a path. -/
def World.rendered (lib : Libraries) (w : World) (c : Config) (t : Template) (v : Value)
    (p : Path) : World :=
  { w with
    files := (t.renderToFile (lib.markdown c.extensions) v lib.codecs c.charset p w.files).1 }

/-- A render leaves everything as it is unless it has a path to render to, a template and a
value. -/
theorem runRender_eq (template : Path) (data output : Option Path) :
    (runRender lib w c template data output).1 =
      match attemptTarget c output, attemptTemplate lib w c template, attemptValue lib w c data with
      | .ok (some p), .ok t, .ok v => w.rendered lib c t v p
      | _, _, _ => w := by
  unfold runRender attemptTarget
  cases outputPath c output with
  | error crash => rfl
  | ok target =>
    simp only [readTemplate, attemptTemplate]
    cases w.files.readText lib.codecs c.charset template with
    | error e => cases target <;> rfl
    | ok source =>
      simp only [Except.map, mapError_ok, Bind.bind, Except.bind]
      cases Template.compile source with
      | error e => cases e <;> cases target <;> rfl
      | ok t =>
        have hvalue := readValue_toOption lib w c data
        cases hread : readValue lib w c data <;> cases hattempt : attemptValue lib w c data <;>
          rw [hread, hattempt] at hvalue <;> cases hvalue <;> cases target <;> rfl

/-- What goes wrong at the output is an output's mishap. -/
theorem stage_of_attemptOutput {t : Template} {v : Value} {target : Option Path} {m : Mishap}
    (hattempt : attemptOutput lib w c t v target = .error m) : m.stage = .output := by
  unfold attemptOutput at hattempt
  split at hattempt
  · cases hrender : t.renderText (lib.markdown c.extensions) v with
    | error e =>
      rw [hrender] at hattempt
      cases hattempt
      rfl
    | ok rendered =>
      rw [hrender] at hattempt
      simp only [mapError_ok, Bind.bind, Except.bind, attemptEcho] at hattempt
      split at hattempt
      · cases hattempt
        rfl
      · cases hattempt
  · split at hattempt
    · cases hattempt
    · cases hattempt
      rfl

/-- A render that fails before it comes to its output leaves the world as it is. -/
theorem runRender_of_early {template : Path} {data output : Option Path} {m : Mishap}
    (hattempt : attemptRender lib w c template data output = .error m) (hstage : m.stage ≠ .output) :
    (runRender lib w c template data output).1 = w := by
  rw [runRender_eq]
  unfold attemptRender at hattempt
  cases htarget : attemptTarget c output with
  | error e => rfl
  | ok target =>
    cases htemplate : attemptTemplate lib w c template with
    | error e => cases target <;> rfl
    | ok t =>
      cases hvalue : attemptValue lib w c data with
      | error e => cases target <;> rfl
      | ok v =>
        rw [htarget, htemplate, hvalue] at hattempt
        exact absurd (stage_of_attemptOutput hattempt) hstage

/-- An output path is written out, in the arguments or in the configuration. -/
theorem moving_of_outputPath {given : Option Path} {p : Path}
    (hgiven : ∀ q ∈ given, Way.Moving q.parts) (htarget : outputPath c given = .ok (some p)) :
    Way.Moving p.parts := by
  unfold outputPath at htarget
  split at htarget
  · cases htarget
    exact hgiven p rfl
  · split at htarget
    · cases htarget
    · split at htarget
      · cases htarget
        exact Path.moving_ofText _
      · cases htarget

/-- A render without a path leaves everything as it is, and another one all but its output. -/
theorem runRender_confined {template : Path} {data output : Option Path}
    (hmoving : ∀ p ∈ output, Way.Moving p.parts) :
    (runRender lib w c template data output).1 = w ∨ ∃ p, outputPath c output = .ok (some p) ∧
      (runRender lib w c template data output).1 =
        { w with files := (runRender lib w c template data output).1.files } ∧
      w.files.Confined p (runRender lib w c template data output).1.files := by
  rw [runRender_eq]
  split
  · rename_i p t v htarget _ _
    have houtput : outputPath c output = .ok (some p) := by
      unfold attemptTarget at htarget
      cases houtput : outputPath c output with
      | error crash =>
        rw [houtput] at htarget
        cases htarget
      | ok target =>
        rw [houtput] at htarget
        cases htarget
        rfl
    exact .inr ⟨p, houtput, rfl,
      t.renderToFile_confined _ v lib.codecs c.charset (moving_of_outputPath hmoving houtput) w.files⟩
  · exact .inl rfl

end Render

/-- What the arguments of a command can ask for. -/
theorem command_cases {parser : Parser} {fs : FileSystem} {env : Environment} {name : Command.Name}
    {args : List Text} {command : Command} (hread : parser.command fs env name args = .ok command) :
    match name with
    | .render => ∃ template data output, command = .render template data output ∧
        ∀ p ∈ output, Way.Moving p.parts
    | .check => ∃ template, command = .check template
    | .init => ∃ force, command = .init force := by
  cases name with
  | render =>
    obtain ⟨f, -, rfl⟩ := map_eq_ok_iff.1 hread
    refine ⟨_, _, _, rfl, fun p hp => ?_⟩
    obtain ⟨t, -, rfl⟩ := Option.map_eq_some_iff.1 hp
    exact Path.moving_ofText t
  | check =>
    obtain ⟨t, -, rfl⟩ := map_eq_ok_iff.1 hread
    exact ⟨_, rfl⟩
  | init =>
    obtain ⟨force, -, rfl⟩ := map_eq_ok_iff.1 hread
    exact ⟨_, rfl⟩

section Run

variable (lib : Libraries) (s : Session) (w : World) {args rest : List Text} {g : Global}
  {name : Command.Name}

/-- A run with a name leaves everything as it is unless its command is run. -/
theorem run_world (hoptions : lib.parser.options w.files w.env args = .ok (g, name, rest)) :
    (run lib s w args).2.1 =
      match Config.load lib.document w.files w.env (g.config.map Path.ofText) true,
        lib.parser.command w.files w.env name rest
      with
      | .ok c, .ok command => (({ s with config := c } : Session).runCommand lib w command).1
      | _, _ => w := by
  rw [run, hoptions]
  simp only [runNamed]
  cases Config.load lib.document w.files w.env (g.config.map Path.ofText) true with
  | error e => rfl
  | ok c => cases lib.parser.command w.files w.env name rest <;> rfl

/-- A check leaves the world as it is, however it ends. -/
theorem run_check_world (hoptions : lib.parser.options w.files w.env args = .ok (g, .check, rest)) :
    (run lib s w args).2.1 = w := by
  rw [run_world lib s w hoptions]
  split
  · rename_i c command _ hread
    obtain ⟨template, rfl⟩ := command_cases hread
    rfl
  · rfl

/-- A render that is not asked for is not run. -/
theorem run_render_world
    (hoptions : lib.parser.options w.files w.env args = .ok (g, .render, rest))
    (hnone : ∀ template data output,
      lib.parser.command w.files w.env .render rest ≠ .ok (.render template data output)) :
    (run lib s w args).2.1 = w := by
  rw [run_world lib s w hoptions]
  split
  · rename_i c command _ hread
    obtain ⟨template, data, output, rfl, -⟩ := command_cases hread
    exact absurd hread (hnone _ _ _)
  · rfl

end Run

/-- A run that ends at once changes nothing, and neither does a check, however it ends. A render
changes nothing either if its first mishap, whether it is handled or not, comes before its output. A
render that comes to its output may change what the output path is for: its file, and directories
above it that were missing. All this holds whatever the libraries are. -/
theorem run_confined (lib : Libraries) (s : Session) (w : World) (args : List Text) :
    let r := (run lib s w args).2
    (∀ e, lib.parser.options w.files w.env args = .error e → r.1 = w) ∧
    (∀ g rest, lib.parser.options w.files w.env args = .ok (g, .check, rest) → r.1 = w) ∧
    ∀ g rest, lib.parser.options w.files w.env args = .ok (g, .render, rest) →
      ((∀ template data output,
        lib.parser.command w.files w.env .render rest ≠ .ok (.render template data output)) →
          r.1 = w) ∧
      ∀ template data output,
        lib.parser.command w.files w.env .render rest = .ok (.render template data output) →
        (∀ m, (Job.render template data output).attempt lib w g = .error m → m.stage ≠ .output →
          r.1 = w) ∧
        (r.1 = w ∨ ∃ c p,
          Config.load lib.document w.files w.env (g.config.map Path.ofText) true = .ok c ∧
          outputPath c output = .ok (some p) ∧ r.1 = { w with files := r.1.files } ∧
          w.files.Confined p r.1.files) := by
  intro r
  refine ⟨fun e hoptions => ?_, fun g rest hoptions => run_check_world lib s w hoptions,
    fun g rest hoptions =>
      ⟨run_render_world lib s w hoptions, fun template data output hread => ?_⟩⟩
  · show (run lib s w args).2.1 = w
    rw [run, hoptions]
  · have hworld : r.1 = _ := run_world lib s w hoptions
    rw [hread] at hworld
    cases hload : Config.load lib.document w.files w.env (g.config.map Path.ofText) true with
    | error e =>
      rw [hload] at hworld
      exact ⟨fun _ _ _ => hworld, .inl hworld⟩
    | ok c =>
      rw [hload] at hworld
      have hrun : r.1 = (runRender lib w c template data output).1 := hworld
      refine ⟨fun m hattempt hstage => hrun.trans ?_, ?_⟩
      · refine runRender_of_early (m := m) ?_ hstage
        rw [Job.attempt, hload] at hattempt
        exact hattempt
      · obtain ⟨_, _, _, hcommand, hmoving⟩ := command_cases hread
        cases hcommand
        rw [hrun]
        refine (runRender_confined hmoving).imp_right ?_
        rintro ⟨p, htarget, hsame, hconfined⟩
        exact ⟨c, p, rfl, htarget, hsame, hconfined⟩

/-- A check, a render of a template that does not compile over an old file, and a render into a
directory that is not there. -/
theorem run_confined_missing :
    let root : Entry := .directory [(Text.of "a.html", .file [0x61]),
      (Text.of "bad.html", .file [0x7b, 0x7b]), (Text.of "old.html", .file [0x62])]
    let w : World := { files := { root } }
    let check := [Text.of "check", Text.of "bad.html"]
    let early := [Text.of "render", Text.of "bad.html", Text.of "-o", Text.of "old.html"]
    let late := [Text.of "render", Text.of "a.html", Text.of "-o", Text.of "out/b.html"]
    let after := (run .standard {} w late).2.1.files
    (run .standard {} w check).2.1 = w ∧ (run .standard {} w early).2.1 = w ∧
      w.files.Confined (Path.ofText (Text.of "out/b.html")) after ∧
      after.root.kindAt [Text.of "out", Text.of "b.html"] = some (.file [0x61]) := by
  intro root w check early late after
  have hearly := (run_confined .standard {} w early).2.2 ⟨{}, none⟩
    [Text.of "bad.html", Text.of "-o", Text.of "old.html"] rfl
  have hstage : (Mishap.compile (.malformed ⟨.unclosedTag, 0⟩)).stage ≠ .output := by decide
  have hfile : after.root.kindAt [Text.of "out", Text.of "b.html"] = some (.file [0x61]) := by
    decide +kernel
  have hlate := (run_confined .standard {} w late).2.2 ⟨{}, none⟩
    [Text.of "a.html", Text.of "-o", Text.of "out/b.html"] rfl
  refine ⟨(run_confined .standard {} w check).2.1 ⟨{}, none⟩ [Text.of "bad.html"] rfl,
    (hearly.2 _ none (some (Path.ofText (Text.of "old.html"))) rfl).1 _ rfl hstage, ?_, hfile⟩
  rcases (hlate.2 _ none (some (Path.ofText (Text.of "out/b.html"))) rfl).2 with
    hsame | ⟨c, p, -, htarget, -, hconfined⟩
  · have hsame' : after = w.files := congrArg World.files hsame
    rw [hsame'] at hfile
    cases hfile
  · cases htarget
    exact hconfined

end Cli

end Stencil
