import Stencil.Log.Record

namespace Stencil

namespace Log

/-- The level of the root logger, and the least one that is shown without a format. -/
def rootLevel : Level := Level.warning

/-- The name of the logger above all others of the library. -/
def topName : Text := Text.of "tinhorn"

/-- Whether a logger is the top one or below it. -/
def isBelowTop (name : Text) : Bool := name == topName || (topName ++ Text.of ".").isPrefixOf name

/-- Why a record cannot be written. -/
inductive EmitError where
  | message (e : MessageError)
  | moment (e : MomentError)
deriving DecidableEq

def EmitError.text : EmitError → Text
  | message e => e.message
  | moment e => e.message

namespace Record

/-- The line of a record whose message is filled in; without a format it is bare. -/
def line (format : Option Format) (r : Record) : Except MomentError Text :=
  match format with
  | some f => (r.format f).map (· ++ lineEnd)
  | none => .ok (r.bare ++ lineEnd)

/-- What is written for a record with arguments. A JSON object has its time before its message, so
the time is looked at first there. -/
def emit (format : Option Format) (args : List Data) (r : Record) : Except EmitError Text :=
  let timed : Except MomentError Unit :=
    if format.any fun f => f.mode == .json then r.time.full.map fun _ => () else .ok ()
  match timed, fill r.message args with
  | .error e, _ => .error (.moment e)
  | .ok _, .error e => .error (.message e)
  | .ok _, .ok message => ({ r with message }.line format).mapError .moment

end Record

/-- The logger above all others of the library, which has a level and, once it is set up, a format.
What is not set up, and any logger elsewhere, falls back to a root logger that shows warnings as
they are. -/
structure Logger where
  /-- Zero defers to the root logger. -/
  level : Level := rootLevel
  format : Option Format := none
deriving DecidableEq

namespace Logger

/-- Sets the logger up for a stream that is a terminal or not. -/
def setUp (terminal : Bool) (mode : Mode) (level : Level) : Logger :=
  ⟨level, some ⟨mode, terminal⟩⟩

/-- The least level at which a logger of some name takes records. -/
def threshold (l : Logger) (name : Text) : Level :=
  if isBelowTop name && l.level != 0 then l.level else rootLevel

/-- Whether a record of a level is taken. Nothing at or below zero is. -/
def takes (l : Logger) (r : Record) : Bool := 0 < r.level && l.threshold r.logger ≤ r.level

/-- The format that a record of some logger is written in, if there is one for it. -/
def formatOf (l : Logger) (name : Text) : Option Format :=
  if isBelowTop name then l.format else none

/-- Whether anything is written for a record. -/
def writes (l : Logger) (r : Record) : Bool :=
  l.takes r && ((l.formatOf r.logger).isSome || rootLevel ≤ r.level)

/-- What is written for a record with arguments. -/
def emit (l : Logger) (args : List Data) (r : Record) : Except EmitError Text :=
  if l.writes r then r.emit (l.formatOf r.logger) args else .ok []

/-- What is written for some records without arguments. -/
def emitAll (l : Logger) (rs : List Record) : Except EmitError Text :=
  (rs.mapM (l.emit [])).map List.flatten

end Logger

/-- The flags of a command line that concern the log. -/
structure Flags where
  verbose : Bool := false
  quiet : Bool := false
  ci : Bool := false
deriving DecidableEq

namespace Flags

def mode (f : Flags) : Mode := if f.ci then .json else if f.verbose then .verbose else .human

def level (f : Flags) : Level :=
  if f.quiet then Level.warning else if f.verbose then Level.debug else Level.info

/-- The logger that the flags ask for. -/
def logger (f : Flags) (terminal : Bool) : Logger := Logger.setUp terminal f.mode f.level

end Flags

end Log

end Stencil
