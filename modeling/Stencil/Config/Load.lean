import Stencil.Config.Basic
import Stencil.FileSystem.TextFile

namespace Stencil

namespace Config

/-- The names that lead from a directory to the files that may configure it, in order. -/
def candidates : List (List Text) :=
  [[Text.of ".tinhorn", Text.of "config.yaml"], [Text.of "tinhorn.yaml"]]

/-- The places above a place, nearest first; each is given by its names in reverse. -/
def basesOf : (reversed : List Text) → List (List Text)
  | [] => [[]]
  | n :: ns => (n :: ns).reverse :: basesOf ns

/-- The places that may hold the configuration of a directory, in the order in which they count. -/
def places (directory : List Text) : List (List Text) :=
  (basesOf directory.reverse).flatMap fun base => candidates.map fun c => base ++ c

/-- The first of some paths that leads to a file. A path that leads nowhere is passed over, but not
one with a name that is too long. -/
def firstFile? (fs : FileSystem) : List Path → Except FileError (Option Path)
  | [] => .ok none
  | p :: ps =>
    match fs.entry p with
    | .ok (.file _) => .ok (some p)
    | .error .nameTooLong => .error .nameTooLong
    | _ => firstFile? fs ps

/-- Why a path cannot be resolved: a name on its way that the system cannot even be asked for. What
the system refuses is passed over. -/
def unresolvable? (p : Path) : Option FileError :=
  p.parts.findSome? fun n => (Path.fault? n).filter fun e => !e.isSystem

/-- The place of the directory that a search starts from, the working directory unless another one
is given. -/
def startPlace (fs : FileSystem) (start : Option Path) : List Text :=
  (start.map (Path.resolve fs.cwd)).getD fs.cwd

/-- The nearest configuration file at or above a directory. -/
def find? (fs : FileSystem) (start : Option Path) : Except FileError (Option Path) :=
  match start.bind unresolvable? with
  | some e => .error e
  | none => firstFile? fs ((places (startPlace fs start)).map Path.ofParts)

/-- Why a configuration file cannot be used. -/
inductive LoadError where
  /-- An explicit file that is not there. -/
  | missing (p : Path)
  | unreadable (e : TextFileError)
  | document (e : ReadError)
  | notAMapping (p : Path)
  | invalid (e : ConfigError)
deriving DecidableEq

def LoadError.message : LoadError → Text
  | missing p => Text.of "Config file not found: " ++ p.toText
  | notAMapping p => Text.of "Config file " ++ p.toText ++ Text.of " must contain a mapping"
  | invalid e => e.message
  | unreadable e => e.message
  | document e => e.message

/-- The configuration of a document. Falsy data configures nothing. -/
def ofData (env : Environment) (p : Path) (d : Data) : Except LoadError Config :=
  let config (entries : List (Scalar × Data)) : Except LoadError Config :=
    match ofEntries env entries with
    | .ok c => .ok { c with source := some p }
    | .error e => .error (.invalid e)
  match d with
  | .mapping entries => config entries
  | _ => if d.isFalsy then config [] else .error (.notAMapping p)

section Read

variable (document : Text → Except ReadError Data) (fs : FileSystem) (env : Environment)

/-- The configuration in a file, which holds a document in UTF-8. -/
def readFile (p : Path) : Except LoadError Config :=
  match fs.readAs Charset.utf8.codec p with
  | .error e => .error (.unreadable e)
  | .ok t =>
    match document t with
    | .error e => .error (.document e)
    | .ok d => ofData env p d

/-- The configuration of an explicit file, or else of the nearest one if it is looked for, or else
the default one. -/
def load (explicit : Option Path) (discover : Bool) : Except LoadError Config :=
  match explicit with
  | some p =>
    match fs.entry p with
    | .ok _ => readFile document fs env p
    | .error .nameTooLong => .error (.unreadable (.system .nameTooLong))
    | .error _ => .error (.missing p)
  | none =>
    match if discover then find? fs none else .ok none with
    | .ok (some p) => readFile document fs env p
    | .ok none => .ok {}
    | .error e => .error (.unreadable (.system e))

end Read

end Config

end Stencil
