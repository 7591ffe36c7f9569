import Stencil.Cli.Run

namespace Stencil

namespace Cli

/-- What a command line does with a template. -/
inductive Job where
  | render (template : Path) (data output : Option Path)
  | check (template : Path)
deriving DecidableEq

namespace Job

def command : Job → Command
  | render template data output => .render template data output
  | check template => .check template

def template : Job → Path
  | render template _ _ => template
  | check template => template

end Job

/-- What can go wrong in a run. -/
inductive Mishap where
  | config (e : Config.LoadError)
  /-- The configured output path is no text. -/
  | target
  | template (e : TextFileError)
  | compile (e : CompileError)
  | data (e : TextFileError)
  | document (e : ReadError)
  | output (e : ToFileError)
  /-- Standard output has no code for a surrogate. -/
  | unencodable
deriving DecidableEq

namespace Mishap

/-- What a handler tells mishaps apart by. -/
inductive Kind where
  /-- A file is not there. -/
  | missing
  /-- The system refuses something for another cause. -/
  | system
  /-- Data is of the right type and still unusable, or a text and its bytes do not fit. -/
  | value
  | type
  /-- Nothing has a given name or place. -/
  | lookup
  | yaml
  /-- The library itself refuses a template or gives up a write. -/
  | library
  | other
deriving DecidableEq

namespace Kind

def ofFile : FileError → Kind
  | .notFound => missing
  | e => if e.isSystem then system else value

def ofTextFile : TextFileError → Kind
  | .system e => ofFile e
  | .unnamedCharset => type
  | .nullInCharset => value
  | .surrogateInCharset => value
  | .unknownCharset => lookup
  | .undecodable _ => value

def ofDocument (e : ReadError) : Kind :=
  match e.kind with
  | .malformed => yaml
  | .undecodable => value
  | .value => value
  | .other => other

def ofLoad : Config.LoadError → Kind
  | .missing _ => missing
  | .unreadable e => ofTextFile e
  | .document e => ofDocument e
  | .notAMapping _ => value
  | .invalid e => if e.isTypeError then type else value

def ofFault : Fault → Kind
  | .tooManyDigits => value
  | .pastEnd => lookup
  | _ => other

def ofSink : SinkError → Kind
  | .unencodable => value
  | .output _ => library
  | _ => system

end Kind

def kind : Mishap → Kind
  | config e => .ofLoad e
  | target => .type
  | template e => .ofTextFile e
  | compile (.malformed _) => .library
  | compile (.unhashable _) => .value
  | data e => .ofTextFile e
  | document e => .ofDocument e
  | output (.file e) => .ofTextFile e
  | output (.render (.sink e)) => .ofSink e
  | output (.render (.fault f)) => .ofFault f
  | unencodable => .value

inductive Stage where
  | configuration
  /-- The options of the configuration are looked at. -/
  | options
  | input
  | output
deriving DecidableEq

def stage : Mishap → Stage
  | config _ => .configuration
  | target => .options
  | template _ => .input
  | compile _ => .input
  | data _ => .input
  | document _ => .input
  | output _ => .output
  | unencodable => .output

/-- What a report of the mishap says; some mishaps no report has words for. -/
def report? (job : Job) : Mishap → Option Text
  | config (.missing p) => some (Config.LoadError.missing p).message
  | config e => some (Text.of "Failed to load config: " ++ e.message)
  | compile (.malformed e) =>
    match job with
    | .render .. =>
      some (Text.of "Template error in " ++ job.template.toText ++ Text.of ": " ++ e.message)
    | .check _ => some (Text.of "Template error: " ++ e.message)
  | template e => some (Text.of "Failed to load input: " ++ e.message)
  | data e => some (Text.of "Failed to load input: " ++ e.message)
  | document e => some (Text.of "Failed to load input: " ++ e.message)
  | output (.file e) => some (Text.of "Rendering failed: " ++ e.message)
  | output (.render (.sink e)) => some (Text.of "Rendering failed: " ++ e.message)
  | output (.render (.fault _)) => none
  | compile (.unhashable _) => none
  | target => none
  | unencodable => none

end Mishap

namespace Job

/-- The kinds of mishaps that a run handles at a stage. What is not there is a failure of the system
too. -/
def handled : Job → Mishap.Stage → List Mishap.Kind
  | _, .configuration => [.missing, .value, .yaml]
  | _, .options => []
  | render .., .input => [.missing, .system, .yaml, .library]
  | check _, .input => [.library]
  | render .., .output => [.missing, .system, .library]
  | check _, .output => []

/-- Whether a run that does the job handles the mishap. -/
def handles (job : Job) (m : Mishap) : Bool := (job.handled m.stage).contains m.kind

end Job

section Steps

variable (lib : Libraries) (w : World) (c : Config)

/-- Reads the template of a file and compiles it. -/
def attemptTemplate (p : Path) : Except Mishap Template := do
  let source ← (w.files.readText lib.codecs c.charset p).mapError .template
  (Template.compile source).mapError .compile

/-- Finds out where output goes. -/
def attemptTarget (given : Option Path) : Except Mishap (Option Path) :=
  (outputPath c given).mapError fun _ => .target

/-- Reads the value of a data file. -/
def attemptValue : Option Path → Except Mishap Value
  | none => .ok (.mapping [])
  | some p => do
    let (codec, bytes) ← (w.files.openFile lib.codecs c.charset p).mapError .data
    match ← (lib.fileDocument codec bytes).mapError .document with
    | .scalar .null => return .mapping []
    | d => return d.toValue

/-- Shows some output. -/
def attemptEcho (output : Text) : Except Mishap Unit :=
  if (w.shown output).hasSurrogate then .error .unencodable else .ok ()

/-- Renders a value to a file, or else to standard output. -/
def attemptOutput (t : Template) (v : Value) : Option Path → Except Mishap Unit
  | none => do
    let rendered ← (t.renderText (lib.markdown c.extensions) v).mapError
      fun e => .output (.render e)
    attemptEcho w rendered
  | some p =>
    match (t.renderToFile (lib.markdown c.extensions) v lib.codecs c.charset p w.files).2 with
    | none => .ok ()
    | some e => .error (.output e)

def attemptRender (template : Path) (data output : Option Path) : Except Mishap Unit := do
  let target ← attemptTarget c output
  let t ← attemptTemplate lib w c template
  let v ← attemptValue lib w c data
  attemptOutput lib w c t v target

def attemptCheck (template : Path) : Except Mishap Unit := do
  let t ← attemptTemplate lib w c template
  attemptEcho w (validText template t)

/-- Does a job with a configuration. -/
def Job.attemptWith : Job → Except Mishap Unit
  | .render template data output => attemptRender lib w c template data output
  | .check template => attemptCheck lib w c template

/-- Loads the configuration and does a job. -/
def Job.attempt (g : Global) (job : Job) : Except Mishap Unit := do
  let c ← (Config.load lib.document w.files w.env (g.config.map Path.ofText) true).mapError .config
  job.attemptWith lib w c

end Steps

end Cli

end Stencil
