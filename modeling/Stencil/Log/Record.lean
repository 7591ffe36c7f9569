import Stencil.Log.Level
import Stencil.Log.Message
import Stencil.Log.Time
import Stencil.Text.JsonString

namespace Stencil

namespace Log

/-- A record is written as one line for people, or as one line that holds a JSON object in ASCII.
The error that comes with a record follows it on lines of its own, or is a member of the object. -/
structure Record where
  logger : Text
  level : Level
  message : Text
  time : Moment := 0
  /-- The text of an error that comes with the record. -/
  error : Option Text := none
deriving DecidableEq

inductive Mode where
  | human
  | verbose
  | json
deriving DecidableEq

namespace Mode

def name : Mode → Text
  | human => Text.of "human"
  | verbose => Text.of "verbose"
  | json => Text.of "json"

def named? (t : Text) : Option Mode := [human, verbose, json].find? fun m => m.name == t

/-- What is said about a name that no mode has. -/
def unknownMessage (t : Text) : Text := t.quoted ++ Text.of " is not a valid LogMode"

end Mode

/-- How records are written. -/
structure Format where
  mode : Mode
  /-- Whether the level is coloured; a JSON line never is. -/
  coloured : Bool
deriving DecidableEq

/-- The text of an error of some kind. -/
def errorText (kind t : Text) : Text := if t = [] then kind else kind ++ Text.of ": " ++ t

def lineEnd : Text := [CodePoint.ofChar '\n']

namespace Record

/-- The error of a record on lines of its own. -/
def errorLines (r : Record) : Text :=
  match r.error with
  | some e => lineEnd ++ e
  | none => []

/-- The level between brackets. -/
def tag (coloured : Bool) (r : Record) : Text :=
  let name := Text.of "[" ++ r.level.name ++ Text.of "]"
  if coloured then r.level.colour ++ name ++ Level.reset else name

/-- The members of the JSON object of a record, with its time in full. -/
def members (r : Record) (time : Text) : List (Text × Text) :=
  [(Text.of "level", r.level.name), (Text.of "ts", time), (Text.of "logger", r.logger),
    (Text.of "msg", r.message)] ++
    match r.error with
    | some e => [(Text.of "exc", e)]
    | none => []

/-- A JSON object whose members are texts. -/
def jsonObject (members : List (Text × Text)) : Text :=
  Text.of "\x7b" ++
    Text.joinWith (Text.of ", ")
      (members.map fun m => JsonString.encode m.1 ++ Text.of ": " ++ JsonString.encode m.2) ++
    Text.of "\x7d"

/-- A record without the end of its line. -/
def format (f : Format) (r : Record) : Except MomentError Text :=
  match f.mode with
  | .human => .ok (r.tag f.coloured ++ Text.of " " ++ r.message ++ r.errorLines)
  | .verbose =>
    r.time.timeOfDay.map fun time =>
      r.tag f.coloured ++ Text.of "[" ++ time ++ Text.of "] " ++ r.logger ++ Text.of ": " ++
        r.message ++ r.errorLines
  | .json => r.time.full.map fun time => jsonObject (r.members time)

/-- A record that nothing is set up for: its message, and its error on lines of its own. -/
def bare (r : Record) : Text :=
  match r.error with
  | some e =>
    if r.message.getLast? = some (CodePoint.ofChar '\n') then r.message ++ e
    else r.message ++ lineEnd ++ e
  | none => r.message

end Record

end Log

end Stencil
