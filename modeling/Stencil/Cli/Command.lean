import Stencil.Config.Reference
import Stencil.FileSystem.Basic
import Stencil.Log.Logger

namespace Stencil

namespace Cli

/-- What the options for every command say. -/
structure Global where
  flags : Log.Flags
  /-- The explicit configuration file. -/
  config : Option Text
deriving DecidableEq

inductive Command.Name where
  | render
  | check
  | init
deriving DecidableEq

inductive Command where
  | render (template : Path) (data output : Option Path)
  | check (template : Path)
  | init (force : Bool)
deriving DecidableEq

/-- Why arguments ask for no command. -/
inductive Refusal where
  /-- They do not fit. -/
  | usage
  /-- They ask for help, which is shown. -/
  | help (shown : Text)
  /-- They ask for the version. -/
  | version
  /-- A path that the system cannot even be asked for. -/
  | unusable (e : FileError)
deriving DecidableEq

/-- The files that the arguments of a render name, as they are written. -/
structure RenderFiles where
  template : Text
  data : Option Text
  output : Option Text
deriving DecidableEq

/-- How arguments are read. A reader may look at the files and at the environment. -/
structure Parser where
  /-- The options for every command, the name of a command, and the arguments of that command. -/
  options : FileSystem → Environment → List Text →
    Except Refusal (Global × Command.Name × List Text)
  render : FileSystem → Environment → List Text → Except Refusal RenderFiles
  check : FileSystem → Environment → List Text → Except Refusal Text
  init : FileSystem → Environment → List Text → Except Refusal Bool

namespace Parser

variable (parser : Parser) (fs : FileSystem) (env : Environment)

/-- The command of a name with its arguments. -/
def command : Command.Name → List Text → Except Refusal Command
  | .render, args =>
    (parser.render fs env args).map fun f =>
      .render (Path.ofText f.template) (f.data.map Path.ofText) (f.output.map Path.ofText)
  | .check, args => (parser.check fs env args).map fun t => .check (Path.ofText t)
  | .init, args => (parser.init fs env args).map .init

end Parser

end Cli

end Stencil
