import Stencil.Cli.Arguments
import Stencil.Cli.Command

namespace Stencil

namespace Cli

/-- The options for every command. -/
def globalSpecs : List OptionSpec :=
  [{ long := "config", short := some 'c', takesValue := true },
    { long := "verbose", short := some 'v' }, { long := "quiet", short := some 'q' },
    { long := "ci" }, { long := "version" }, { long := "help" }]

def Global.ofArguments (a : Arguments) : Global where
  flags := ⟨a.hasFlag "verbose", a.hasFlag "quiet", a.hasFlag "ci"⟩
  config := a.value? "config"

namespace Command.Name

def text : Command.Name → Text
  | render => Text.of "render"
  | check => Text.of "check"
  | init => Text.of "init"

def named? (t : Text) : Option Command.Name := [render, check, init].find? fun n => n.text == t

/-- The options of a command. -/
def specs : Command.Name → List OptionSpec
  | render =>
    [{ long := "data", short := some 'd', takesValue := true },
      { long := "output", short := some 'o', takesValue := true }, { long := "help" }]
  | check => [{ long := "help" }]
  | init => [{ long := "force" }, { long := "help" }]

end Command.Name

namespace Parser

/-- Looks at the written path of an option or an argument. A file that is to be read must be
there. -/
def checkPath (fs : FileSystem) (needed : Bool) (t : Text) : Except Refusal Unit :=
  match fs.entryOfText t with
  | .ok (.file _) => .ok ()
  | .ok (.directory _) => if needed then .error .usage else .ok ()
  | .error e =>
    if !e.isSystem then .error (.unusable e) else if needed then .error .usage else .ok ()

/-- Looks at the paths of some options in the order in which the options first occur. -/
def checkValues (fs : FileSystem) (a : Arguments) : Except Refusal Unit :=
  (a.values.map Prod.fst).eraseDups.forM fun long =>
    ((a.value? long).map (checkPath fs (long != "output"))).getD (.ok ())

/-- The template among the arguments: there must be just one. -/
def templateIn (fs : FileSystem) : List Text → Except Refusal Text
  | [] => .error .usage
  | t :: more => do
    checkPath fs true t
    if more = [] then return t else .error .usage

/-- The arguments of a command with their options, unless they ask for help. -/
def readCommand (fs : FileSystem) (name : Command.Name) (args : List Text) :
    Except Refusal Arguments :=
  match Arguments.read name.specs true none args with
  | none => .error .usage
  | some a =>
    if a.hasFlag "help" then .error (.help [])
    else (checkValues fs a).map fun _ => a

/-- The options for every command. The version or the help, whichever is asked for first, comes
before all else. -/
def readGlobal (fs : FileSystem) (args : List Text) : Except Refusal Arguments :=
  match Arguments.read globalSpecs false none args with
  | none => .error .usage
  | some a =>
    match a.flags.find? fun f => f == "version" || f == "help" with
    | some f => .error (if f == "version" then .version else .help [])
    | none => (checkValues fs a).map fun _ => a

/-- What is made of arguments that start with the name of no command. There may be options among
them, which are read for the version or the help. -/
def unknownCommand (fs : FileSystem) (args : List Text) : Refusal :=
  match readGlobal fs args with
  | .error r => r
  | .ok _ => .usage

/-- The options for every command, the name of the command, and what stands behind it. -/
def readOptions (fs : FileSystem) (args : List Text) :
    Except Refusal (Global × Command.Name × List Text) :=
  match readGlobal fs args with
  | .error r => .error r
  | .ok a =>
    match a.rest with
    | [] => .error .usage
    | n :: rest =>
      match Command.Name.named? n with
      | none => .error (unknownCommand fs (n :: rest))
      | some name => .ok (Global.ofArguments a, name, rest)

/-- The parser of options with a long name or a letter. -/
def standard : Parser where
  options fs _ args := readOptions fs args
  render fs _ args := do
    let a ← readCommand fs .render args
    let template ← templateIn fs a.rest
    return { template, data := a.value? "data", output := a.value? "output" }
  check fs _ args := do
    let a ← readCommand fs .check args
    templateIn fs a.rest
  init fs _ args := do
    let a ← readCommand fs .init args
    if a.rest = [] then return a.hasFlag "force" else .error .usage

end Parser

/-- The paths that a command line may name, whether it fits or not. -/
def pathsIn (args : List Text) : List Text :=
  match Arguments.read globalSpecs false none args with
  | none => []
  | some a =>
    a.values.map Prod.snd ++
      match a.rest with
      | [] => []
      | n :: rest =>
        match (Command.Name.named? n).bind fun name => Arguments.read name.specs true none rest with
        | some b => b.rest ++ b.values.map Prod.snd
        | none => []

end Cli

end Stencil
