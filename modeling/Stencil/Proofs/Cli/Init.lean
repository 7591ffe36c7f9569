import Stencil.Cli.Run
import Stencil.Cli.Standard
import Stencil.Proofs.Config.Default
import Stencil.Proofs.Config.Discovery
import Stencil.Proofs.FileSystem.Writable

namespace Stencil

namespace FileSystem

variable (fs : FileSystem)

/-- The place of the directory for the configuration of the working directory. -/
def configHome : List Text := fs.cwd ++ [Text.of ".tinhorn"]

/-- The place of the configuration file of the working directory. -/
def configPlace : List Text := fs.configHome ++ [Text.of "config.yaml"]

/-- A configuration file can be put in the working directory: its directory is there or can be made,
and in its own place is nothing, or a file that may be replaced. -/
structure HasRoom (fs : FileSystem) (force : Bool) : Prop where
  home : ∀ content, fs.root.kindAt fs.configHome ≠ some (.file content)
  free : fs.root.kindAt fs.configPlace ≠ some .directory
  allowed : force = true ∨ fs.root.kindAt fs.configPlace = none

end FileSystem

namespace Cli

open FileSystem

variable {lib : Libraries} {document : Text → Except ReadError Data} {fs : FileSystem} {w : World}

theorem isName_configHome : Path.IsName (Text.of ".tinhorn") := ⟨by decide, by decide, by decide⟩

theorem isName_configFile : Path.IsName (Text.of "config.yaml") := ⟨by decide, by decide, by decide⟩

theorem localConfig_eq :
    localConfig = ⟨[], [Text.of ".tinhorn"] ++ [Text.of "config.yaml"]⟩ := by
  decide

/-- The relative path of the own configuration can always be used. -/
theorem fault?_localConfig : Path.fault? localConfig.toText = none := by decide

theorem isName_localConfig : ∀ n ∈ localConfig.parts, Path.IsName n := by
  rw [localConfig_eq]
  exact List.forall_mem_cons.2 ⟨isName_configHome, List.forall_mem_singleton.2 isName_configFile⟩

/-- That path leads to it from the working directory. -/
theorem configPlace_eq (fs : FileSystem) :
    fs.startOf localConfig ++ localConfig.parts = fs.configPlace := by
  rw [localConfig_eq]
  exact (List.append_assoc _ _ _).symm

/-- Whether there is a configuration of the working directory. -/
theorem holds_localConfig (hcwd : fs.root.kindAt fs.cwd = some .directory) :
    fs.holds localConfig = (fs.root.kindAt fs.configPlace).isSome := by
  rw [holds_of_names fault?_localConfig isName_localConfig hcwd, configPlace_eq]

theorem parent_localConfig : localConfig.parent = ⟨[], [] ++ [Text.of ".tinhorn"]⟩ := by decide

/-- The directory for the configuration is made unless it is there. -/
theorem enter_configHome (hcwd : fs.root.kindAt fs.cwd = some .directory)
    (hhome : ∀ content, fs.root.kindAt fs.configHome ≠ some (.file content)) :
    ∃ grown, Way.enter ⟨fs.root, fs.cwd⟩ (Text.of ".tinhorn") = some ⟨grown, fs.configHome⟩ ∧
      ∀ query, grown.kindAt query =
        if query = fs.configHome then some .directory else fs.root.kindAt query := by
  rcases hkind : fs.root.kindAt fs.configHome with _ | content | _
  · have habove : fs.root.kindAt fs.configHome.dropLast = some .directory := by
      rw [configHome, List.dropLast_concat]
      exact hcwd
    have hfree : fs.root.kindAt fs.configHome ≠ some .directory := by simp [hkind]
    exact ⟨_, Way.enter_of_nothing isName_configHome hkind,
      Entry.kindAt_put Entry.isLeaf_empty habove hfree⟩
  · exact absurd hkind (hhome content)
  · refine ⟨_, Way.enter_of_directory isName_configHome hkind, fun query => ?_⟩
    split
    · rw [‹query = _›, hkind]
    · rfl

/-- Making the directory of the configuration is entering it. -/
theorem ensureDirectory_configHome {grown : Entry}
    (hcwd : fs.root.kindAt fs.cwd = some .directory)
    (henter : Way.enter ⟨fs.root, fs.cwd⟩ (Text.of ".tinhorn") = some ⟨grown, fs.configHome⟩) :
    fs.ensureDirectory localConfig.parent = ({ fs with root := grown }, none) := by
  rw [parent_localConfig]
  exact ensureDirectory_of_enter (by decide) rfl hcwd isName_configHome.moving henter

/-- Where there is room, a configuration file can be written. -/
theorem writable_localConfig {force : Bool} (hcwd : fs.root.kindAt fs.cwd = some .directory)
    (hroom : fs.HasRoom force) :
    ∃ grown, fs.Writable localConfig grown fs.configPlace ∧
      Way.enter ⟨fs.root, fs.cwd⟩ (Text.of ".tinhorn") = some ⟨grown, fs.configHome⟩ ∧
      ∀ query, grown.kindAt query =
        if query = fs.configHome then some .directory else fs.root.kindAt query := by
  obtain ⟨grown, henter, hkind⟩ := enter_configHome hcwd hroom.home
  refine ⟨grown, ⟨fault?_localConfig, by decide, hcwd, ?_, ?_⟩, henter, hkind⟩
  · rw [hkind, if_neg (by simp [configPlace])]
    exact hroom.free
  · refine ⟨[Text.of ".tinhorn"], Text.of "config.yaml", fs.configHome, ?_, rfl, ?_,
      isName_configFile.below, isName_configFile.short⟩
    · rw [localConfig_eq]
    · rw [Way.make_cons]
      exact congrArg (fun r => r.bind fun v => v.make []) henter

section Command

variable {force : Bool} (hcwd : w.files.root.kindAt w.files.cwd = some .directory)

include hcwd

/-- The command writes the default configuration where there is room for it, over another one only
if it is forced to. -/
theorem runInit_of_room (hroom : w.files.HasRoom force) :
    ∃ grown fs', w.files.Written localConfig grown w.files.configPlace Config.defaultBytes fs' ∧
      (∀ query, grown.kindAt query =
        if query = w.files.configHome then some .directory else w.files.root.kindAt query) ∧
      runInit w force = ({ w with files := fs' },
        .ended 0 (Text.of "Created " ++ localConfig.toText ++ Log.lineEnd)) := by
  obtain ⟨grown, hwritable, henter, hkind⟩ := writable_localConfig hcwd hroom
  refine ⟨grown, _, hwritable.written Config.defaultBytes, hkind, ?_⟩
  have hgo : (w.files.holds localConfig && !force) = false := by
    rw [holds_localConfig hcwd]
    rcases hroom.allowed with rfl | hnothing
    · simp
    · simp [hnothing]
  simp only [runInit, hgo, Bool.false_eq_true, if_false, ensureDirectory_configHome hcwd henter,
    hwritable.openEmpty]
  rfl

end Command

theorem exit_configFailure (w : World) (e : Config.LoadError) : (configFailure w e).exit = 1 := by
  unfold configFailure
  split
  · rfl
  · split <;> rfl
  · split <;> rfl
  · rfl
  · split <;> rfl

section Run

variable {args rest : List Text} {g : Global} {name : Command.Name} {force : Bool}

/-- The run puts the default configuration into the working directory. -/
structure Creates (w : World) (r : World × Outcome) : Prop where
  exit : r.2.exit = 0
  crash : r.2.crash = none
  cwd : r.1.files.cwd = w.files.cwd
  kindAt : ∀ query, r.1.files.root.kindAt query =
    if query = w.files.configPlace then some (.file Config.defaultBytes)
    else if query = w.files.configHome then some .directory
    else w.files.root.kindAt query

/-- The run fails and changes no file. -/
structure Fails (w : World) (r : World × Outcome) : Prop where
  exit : r.2.exit = 1
  files : r.1.files = w.files

variable (hoptions : lib.parser.options w.files w.env args = .ok (g, name, rest))
  (hread : lib.parser.command w.files w.env name rest = .ok (.init force))

include hoptions hread

/-- A configuration is loaded before the command is run. -/
theorem run_init (s : Session) :
    (run lib s w args).2 =
      match Config.load lib.document w.files w.env (g.config.map Path.ofText) true with
      | .ok c => ((runInit w force).1, (runInit w force).2.after (w.loaded c))
      | .error e => (w, configFailure w e) := by
  rw [run, hoptions]
  simp only [runNamed]
  cases Config.load lib.document w.files w.env (g.config.map Path.ofText) true with
  | error e => rfl
  | ok c => simp only [hread, Session.runCommand]

/-- The command fails where the configuration in force cannot be loaded, which it does not need. -/
theorem run_init_of_not_loaded (s : Session) {e : Config.LoadError}
    (hload : Config.load lib.document w.files w.env (g.config.map Path.ofText) true = .error e) :
    Fails w (run lib s w args).2 := by
  rw [run_init hoptions hread, hload]
  exact ⟨exit_configFailure w e, rfl⟩

/-- Where there is room, and the configuration in force can be loaded, the command creates its
file. -/
theorem run_init_of_room (s : Session) (hcwd : w.files.root.kindAt w.files.cwd = some .directory)
    (hroom : w.files.HasRoom force) {c : Config}
    (hload : Config.load lib.document w.files w.env (g.config.map Path.ofText) true = .ok c) :
    Creates w (run lib s w args).2 := by
  obtain ⟨grown, fs', hwritten, hgrown, hrun⟩ := runInit_of_room hcwd hroom
  rw [run_init hoptions hread, hload]
  simp only [hrun]
  refine ⟨rfl, rfl, hwritten.cwd, fun query => ?_⟩
  rw [hwritten.kindAt, hgrown]

end Run

variable {args rest : List Text} {g : Global} {name : Command.Name}

/-- Where there is room for it, the forced command writes the default configuration if some
configuration can be loaded, whether or not it is the one to be replaced. Otherwise it fails. This
holds however documents and arguments are read. -/
theorem init_forced_iff_loads (lib : Libraries) (s : Session)
    (hoptions : lib.parser.options w.files w.env args = .ok (g, name, rest))
    (hread : lib.parser.command w.files w.env name rest = .ok (.init true))
    (hcwd : w.files.root.kindAt w.files.cwd = some .directory)
    (hhome : ∀ content, w.files.root.kindAt w.files.configHome ≠ some (.file content))
    (hfree : w.files.root.kindAt w.files.configPlace ≠ some .directory) :
    (∀ c, Config.load lib.document w.files w.env (g.config.map Path.ofText) true = .ok c →
      Creates w (run lib s w args).2) ∧
    ∀ e, Config.load lib.document w.files w.env (g.config.map Path.ofText) true = .error e →
      Fails w (run lib s w args).2 :=
  ⟨fun _ hload => run_init_of_room hoptions hread s hcwd ⟨hhome, hfree, .inl rfl⟩ hload,
    fun _ hload => run_init_of_not_loaded hoptions hread s hload⟩

/-- A working directory that holds a configuration file of its own, and nothing else. -/
def World.ofConfig (content : String) : World where
  files :=
    { root := .directory [(Text.of ".tinhorn",
        .directory [(Text.of "config.yaml", .file ((Utf8.encode? (Text.of content)).getD []))])] }

/-- The file of a comment is replaced. -/
theorem init_forced_iff_loads_comment :
    let lib := Libraries.standard
    let w := World.ofConfig "# mine\n"
    let args := [Text.of "init", Text.of "--force"]
    lib.parser.options w.files w.env args = .ok (⟨{}, none⟩, .init, [Text.of "--force"]) ∧
      lib.parser.command w.files w.env .init [Text.of "--force"] = .ok (.init true) ∧
      w.files.root.kindAt w.files.cwd = some .directory ∧
      (∀ content, w.files.root.kindAt w.files.configHome ≠ some (.file content)) ∧
      w.files.root.kindAt w.files.configPlace ≠ some .directory ∧
      Creates w (run lib {} w args).2 := by
  intro lib w args
  have hoptions : lib.parser.options w.files w.env args =
      .ok (⟨{}, none⟩, .init, [Text.of "--force"]) := rfl
  have hread : lib.parser.command w.files w.env .init [Text.of "--force"] = .ok (.init true) := rfl
  have hcwd : w.files.root.kindAt w.files.cwd = some .directory := rfl
  have hhome : ∀ content, w.files.root.kindAt w.files.configHome ≠ some (.file content) := by
    intro content
    rw [show w.files.root.kindAt w.files.configHome = some .directory from rfl]
    simp
  have hfree : w.files.root.kindAt w.files.configPlace ≠ some .directory := by decide
  have hloads := init_forced_iff_loads lib {} hoptions hread hcwd hhome hfree
  have hok : (Config.load lib.document w.files w.env none true).isOk = true := by decide +kernel
  refine ⟨hoptions, hread, hcwd, hhome, hfree, ?_⟩
  cases hload : Config.load lib.document w.files w.env none true with
  | error e => simp [hload, Except.isOk, Except.toBool] at hok
  | ok c => exact hloads.1 c hload

/-- The file of an unknown section is in the way of its own replacement. -/
theorem init_forced_of_unknown_section :
    let lib := Libraries.standard
    let w := World.ofConfig "x: 1\n"
    let args := [Text.of "init", Text.of "--force"]
    let old := (Utf8.encode? (Text.of "x: 1\n")).getD []
    lib.parser.command w.files w.env .init [Text.of "--force"] = .ok (.init true) ∧
      w.files.root.kindAt w.files.configHome = some .directory ∧
      w.files.root.kindAt w.files.configPlace = some (.file old) ∧
      (run lib {} w args).2.2.exit = 1 ∧
      (run lib {} w args).2.1.files.root.kindAt w.files.configPlace = some (.file old) ∧
      old ≠ Config.defaultBytes := by
  refine ⟨rfl, rfl, by decide, by decide +kernel, by decide +kernel, by decide +kernel⟩

end Cli

end Stencil
