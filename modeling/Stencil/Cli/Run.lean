import Stencil.Cli.Libraries
import Stencil.Config.Default
import Stencil.Config.Load
import Stencil.Render.ToFile
import Stencil.Sink.Buffer
import Stencil.Text.ControlSequence

namespace Stencil

namespace Cli

/-- What a run sees besides its arguments. -/
structure World where
  files : FileSystem
  env : Environment := []
  now : Log.Moment := 0
  /-- Whether the log goes to a terminal. -/
  terminal : Bool := false
  /-- Whether the output goes to a terminal. -/
  outputTerminal : Bool := false

/-- What a run leaves in memory for the next one. -/
structure Session where
  config : Config := {}
  logger : Log.Logger := {}

/-- An error that is not reported but ends the program. -/
inductive Crash where
  | file (e : TextFileError)
  /-- An output path, sections or extensions of a wrong type. -/
  | wrongType
  /-- A name or an output with a code point that cannot be encoded. -/
  | unencodable
  | document (e : ReadError)
  | fault (f : Fault)
deriving DecidableEq

structure Outcome where
  exit : Nat
  output : Text := []
  records : List Log.Record := []
  crash : Option Crash := none
deriving DecidableEq

namespace Outcome

/-- The arguments do not fit. -/
def usage : Outcome := { exit := 2 }

/-- Ends with a code and some output. -/
def ended (exit : Nat) (output : Text) : Outcome := { exit, output }

def crashed (c : Crash) : Outcome := { exit := 1, crash := some c }

/-- The outcome with records before its own. -/
def after (records : List Log.Record) (o : Outcome) : Outcome :=
  { o with records := records ++ o.records }

end Outcome

/-- The version that `--version` shows. -/
def versionText : Text := Text.of "tinhorn 0.1.0\n"

/-- How a run ends whose arguments are refused. -/
def Outcome.refused : Refusal → Outcome
  | .usage => usage
  | .help shown => ended 0 shown
  | .version => ended 0 versionText
  | .unusable e => crashed (.file (.system e))

namespace World

variable (w : World)

/-- Output as it is shown: only a terminal is sent control sequences. -/
def shown (output : Text) : Text := if w.outputTerminal then output else output.dropControls

/-- Ends well with some output. It is written in UTF-8, which has no surrogates. -/
def echoed (output : Text) : Outcome :=
  if (w.shown output).hasSurrogate then .crashed .unencodable else .ended 0 (w.shown output)

/-- A record of a logger below the top one, or of the top one itself. -/
def record (part : String) (level : Log.Level) (message : Text) : Log.Record :=
  { logger := Log.topName ++ Text.of part, level, message, time := w.now }

/-- An error that ends the run after it is reported. -/
def reported (message : Text) : Outcome :=
  { exit := 1, records := [w.record "" Log.Level.error message] }

/-- The record of a compiled template. -/
def compiled (t : Template) : Log.Record :=
  w.record ".template" Log.Level.debug
    (Text.of "Compiled template (" ++ Text.ofNat t.size ++ Text.of " blocks, " ++
      Text.ofNat t.literalSize ++ Text.of " literal bytes)")

/-- The record of a render that starts, which it does if there is a capacity. -/
def rendering (t : Template) (v : Value) : List Log.Record :=
  match t.capacity v with
  | .error _ => []
  | .ok n =>
    [w.record ".template" Log.Level.debug
      (Text.of "Rendering template (capacity hint " ++ Text.ofInt n ++ Text.of ")")]

def wrote (p : Path) : Log.Record :=
  w.record ".template" Log.Level.info (Text.of "Wrote rendered template to " ++ p.toText)

/-- The records of a loaded configuration; the default one has none. -/
def loaded (c : Config) : List Log.Record :=
  match c.source with
  | some p => [w.record ".config" Log.Level.debug (Text.of "Loaded config from " ++ p.toText)]
  | none => []

end World

/-- How a configuration that cannot be used ends a run. -/
def configFailure (w : World) : Config.LoadError → Outcome
  | .missing p => w.reported (Config.LoadError.missing p).message
  | .unreadable e =>
    if e.isValueError then w.reported (Text.of "Failed to load config: " ++ e.message)
    else .crashed (.file e)
  | .document e =>
    if e.kind = .other then .crashed (.document e)
    else w.reported (Text.of "Failed to load config: " ++ e.message)
  | .notAMapping p =>
    w.reported (Text.of "Failed to load config: " ++ (Config.LoadError.notAMapping p).message)
  | .invalid e =>
    if e.isTypeError then .crashed .wrongType
    else w.reported (Text.of "Failed to load config: " ++ e.message)

/-- How an error of the system at an input ends a run; other errors of a file are not reported. -/
def inputFailure (w : World) : TextFileError → Outcome
  | .system e =>
    if e.isSystem then w.reported (Text.of "Failed to load input: " ++ e.message)
    else .crashed (.file (.system e))
  | e => .crashed (.file e)

section Libraries

variable (lib : Libraries)

/-- The template of a file. -/
def readTemplate (w : World) (c : Config) (p : Path) :
    Except TextFileError (Except CompileError Template) :=
  (w.files.readText lib.codecs c.charset p).map Template.compile

/-- The path that output goes to: the given one, or else that of the configuration unless it is
falsy. Only a text can be a path. -/
def outputPath (c : Config) (given : Option Path) : Except Crash (Option Path) :=
  match given with
  | some p => .ok (some p)
  | none =>
    if c.path.isFalsy then .ok none
    else match c.path.text? with
      | some t => .ok (some (Path.ofText t))
      | none => .error .wrongType

/-- The value of a data file; without a file, and in an empty one, there is an empty mapping. -/
def readValue (w : World) (c : Config) (data : Option Path) : Except Outcome Value :=
  match data with
  | none => .ok (.mapping [])
  | some p =>
    match w.files.openFile lib.codecs c.charset p with
    | .error e => .error (inputFailure w e)
    | .ok (codec, bytes) =>
      match lib.fileDocument codec bytes with
      | .error e =>
        .error (if e.kind = .malformed then
          w.reported (Text.of "Failed to load input: " ++ e.message) else .crashed (.document e))
      | .ok (.scalar .null) => .ok (.mapping [])
      | .ok d => .ok d.toValue

/-- How a render that fails ends a run. -/
def renderFailure (w : World) : ToFileError → Outcome
  | .file (.system e) =>
    if e.isSystem then w.reported (Text.of "Rendering failed: " ++ e.message)
    else .crashed (.file (.system e))
  | .file e => .crashed (.file e)
  | .render (.sink .unencodable) => .crashed .unencodable
  | .render (.sink e) => w.reported (Text.of "Rendering failed: " ++ e.message)
  | .render (.fault f) => .crashed (.fault f)

/-- Renders a value to standard output. -/
def renderToOutput (w : World) (c : Config) (t : Template) (v : Value) : Outcome :=
  .after (w.rendering t v)
    (match t.renderText (lib.markdown c.extensions) v with
    | .error e => renderFailure w (.render e)
    | .ok rendered => w.echoed rendered)

/-- Renders a value to a file. The render starts only when the file is open. -/
def renderToPath (w : World) (c : Config) (t : Template) (v : Value) (p : Path) : World × Outcome :=
  let r := t.renderToFile (lib.markdown c.extensions) v lib.codecs c.charset p w.files
  let outcome : Outcome := match r.2 with
    | none => .after (w.rendering t v ++ [w.wrote p]) (.ended 0 [])
    | some (.file e) => renderFailure w (.file e)
    | some e => .after (w.rendering t v) (renderFailure w e)
  ({ w with files := r.1 }, outcome)

/-- Renders the template of a file with the data of another. -/
def runRender (w : World) (c : Config) (template : Path) (data output : Option Path) :
    World × Outcome :=
  match outputPath c output with
  | .error crash => (w, .crashed crash)
  | .ok target =>
    match readTemplate lib w c template with
    | .error e => (w, inputFailure w e)
    | .ok (.error (.unhashable _)) => (w, .crashed .unencodable)
    | .ok (.error (.malformed e)) =>
      (w, w.reported
        (Text.of "Template error in " ++ template.toText ++ Text.of ": " ++ e.message))
    | .ok (.ok t) =>
      let rest := match readValue lib w c data with
        | .error o => (w, o)
        | .ok v =>
          match target with
          | none => (w, renderToOutput lib w c t v)
          | some p => renderToPath lib w c t v p
      (rest.1, rest.2.after [w.compiled t])

/-- What is shown of a template that is valid. -/
def validText (p : Path) (t : Template) : Text :=
  Text.of "Template is valid: " ++ p.toText ++ Text.of " (" ++ Text.ofNat t.size ++
    Text.of " blocks)" ++ Log.lineEnd

/-- Compiles the template of a file and says whether it is valid. -/
def runCheck (w : World) (c : Config) (template : Path) : Outcome :=
  let start := w.record "" Log.Level.info (Text.of "Validating template: " ++ template.toText)
  .after [start]
    (match readTemplate lib w c template with
    | .error e => .crashed (.file e)
    | .ok (.error (.unhashable _)) => .crashed .unencodable
    | .ok (.error (.malformed e)) =>
      .ended 1 (w.shown (Text.of "Template error: " ++ e.message ++ Log.lineEnd))
    | .ok (.ok t) =>
      .after [w.compiled t] (w.echoed (validText template t)))

/-- The configuration file of the working directory. -/
def localConfig : Path := Path.ofText (Text.of ".tinhorn/config.yaml")

/-- Writes the default configuration to the working directory. -/
def runInit (w : World) (force : Bool) : World × Outcome :=
  if w.files.holds localConfig && !force then
    (w, w.reported (Text.of "Config already exists: " ++ localConfig.toText ++
      Text.of " (use --force to overwrite)"))
  else
    match w.files.ensureDirectory localConfig.parent with
    | (_, some e) => (w, .crashed (.file (.system e)))
    | (fs, none) =>
      match fs.openEmpty localConfig with
      | .error e => ({ w with files := fs }, .crashed (.file (.system e)))
      | .ok (fs, place) =>
        let bytes := (Utf8.encode? Config.defaultText).getD []
        ({ w with files := fs.putAt place (.file bytes) },
          .ended 0 (Text.of "Created " ++ localConfig.toText ++ Log.lineEnd))

/-- Runs a command with the configuration in memory. -/
def Session.runCommand (s : Session) (w : World) : Command → World × Outcome
  | .render template data output => runRender lib w s.config template data output
  | .check template => (w, runCheck lib w s.config template)
  | .init force => runInit w force

/-- Sets up the log and loads the configuration, and then runs the command of a name. A
configuration that cannot be loaded leaves the one in memory. -/
def runNamed (s : Session) (w : World) (g : Global) (name : Command.Name) (args : List Text) :
    Session × World × Outcome :=
  let s := { s with logger := g.flags.logger w.terminal }
  match Config.load lib.document w.files w.env (g.config.map Path.ofText) true with
  | .error e => (s, w, configFailure w e)
  | .ok c =>
    let s := { s with config := c }
    let r : World × Outcome := match lib.parser.command w.files w.env name args with
      | .error e => (w, .refused e)
      | .ok command => s.runCommand lib w command
    (s, r.1, r.2.after (w.loaded c))

/-- One run with some arguments. The options for every command are read first; the arguments of the
command are read only when the log is set up and the configuration is loaded. -/
def run (s : Session) (w : World) (args : List Text) : Session × World × Outcome :=
  match lib.parser.options w.files w.env args with
  | .error e => (s, w, .refused e)
  | .ok (g, name, rest) => runNamed lib s w g name rest

end Libraries

end Cli

end Stencil
