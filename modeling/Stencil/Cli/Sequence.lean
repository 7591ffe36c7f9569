import Stencil.Cli.Run

namespace Stencil

/-- The record as it were if it had been made at another moment. -/
def Log.Record.dated (r : Record) (moment : Moment) : Record := { r with time := moment }

namespace Cli

/-- The same files and the same environment at another moment. -/
def World.dated (w : World) (moment : Log.Moment) : World := { w with now := moment }

/-- What is seen of a run from outside. -/
structure Seen where
  exit : Nat
  output : Text
  crash : Option Crash
  /-- What is written for each record. -/
  log : List (Except Log.EmitError Text)
  files : FileSystem

/-- What is seen of a run; in the log, every time stamp is that of one moment. A run makes no record
before it has set up the log, so the logger that it leaves is the one that all of them went to. -/
def seen (stamp : Log.Moment) (r : Session × World × Outcome) : Seen where
  exit := r.2.2.exit
  output := r.2.2.output
  crash := r.2.2.crash
  log := r.2.2.records.map fun record => r.1.logger.emit [] (record.dated stamp)
  files := r.2.1.files

/-- The moments of the runs after the first one. -/
def later (clock : Nat → Log.Moment) : Nat → Log.Moment := fun n => clock (n + 1)

section Libraries

variable (lib : Libraries)

/-- What is seen of some runs in one process. The clock says when each of them takes place. -/
def runTogether (stamp : Log.Moment) (clock : Nat → Log.Moment) (s : Session) (w : World) :
    List (List Text) → List Seen
  | [] => []
  | args :: more =>
    let r := run lib s (w.dated (clock 0)) args
    seen stamp r :: runTogether stamp (later clock) r.1 r.2.1 more

/-- What is seen of some runs if each has a process of its own. -/
def runApart (stamp : Log.Moment) (clock : Nat → Log.Moment) (w : World) :
    List (List Text) → List Seen
  | [] => []
  | args :: more =>
    let r := run lib {} (w.dated (clock 0)) args
    seen stamp r :: runApart stamp (later clock) r.2.1 more

end Libraries

end Cli

end Stencil
