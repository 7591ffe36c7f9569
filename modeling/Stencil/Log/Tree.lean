import Stencil.Log.Logger

namespace Stencil

namespace Log

/-- A stream that records are written to. -/
structure Stream where
  number : Nat
  terminal : Bool := false
deriving DecidableEq

/-- A handler writes records of some level and above to a stream. -/
structure Handler where
  stream : Stream
  format : Option Format := none
  level : Level := 0
deriving DecidableEq

/-- The names of the loggers above a logger, the nearest first, with the name of the logger given
from its end. If no logger is there under what stands in front of a dot, the code point before the
dot is passed over, be it a dot itself. -/
def aboveReversed (isThere : Text → Bool) : Text → List Text
  | c :: d :: rest =>
    if c.is '.' then
      if isThere (d :: rest).reverse then (d :: rest).reverse :: aboveReversed isThere (d :: rest)
      else aboveReversed isThere rest
    else aboveReversed isThere (d :: rest)
  | _ => []

/-- The names of the loggers above a logger, the nearest first. -/
def namesAbove (isThere : Text → Bool) (name : Text) : List Text :=
  aboveReversed isThere name.reverse

/-- What is known of a logger. -/
structure Node where
  /-- Zero defers to the loggers above. -/
  level : Level := 0
  handlers : List Handler := []
  /-- Whether records go on to the loggers above. -/
  propagates : Bool := true
deriving DecidableEq

/-- A message logged through some logger. -/
structure Call where
  record : Record
  args : List Data := []

/-- What a handler has for its stream. A record that cannot be written leaves nothing there. -/
structure Delivery where
  stream : Stream
  text : Except EmitError Text

/-- What comes to the stream. -/
def Delivery.output (d : Delivery) : Text := d.text.toOption.getD []

namespace Handler

def deliver (h : Handler) (c : Call) : Delivery := ⟨h.stream, c.record.emit h.format c.args⟩

/-- What a handler writes for some calls. -/
def output (h : Handler) (calls : List Call) : Text := calls.flatMap fun c => (h.deliver c).output

end Handler

/-- What the top logger is set up for. -/
structure Setup where
  stream : Stream
  mode : Mode := .human
  level : Level := Level.info
deriving DecidableEq

namespace Setup

def format (s : Setup) : Format := ⟨s.mode, s.stream.terminal⟩

def handler (s : Setup) : Handler := { stream := s.stream, format := some s.format }

/-- What the flags of a command line ask for. -/
def ofFlags (f : Flags) (stream : Stream) : Setup := ⟨stream, f.mode, f.level⟩

end Setup

namespace Node

def addHandler (n : Node) (h : Handler) : Node := { n with handlers := n.handlers ++ [h] }

/-- Sets a logger up, one attribute after the other. -/
def setUp (n : Node) (s : Setup) : Node :=
  let n := { n with level := s.level }
  let n := { n with handlers := [] }
  let n := { n with propagates := false }
  n.addHandler s.handler

/-- The level of the nearest logger that has one. -/
def effectiveLevel : List Node → Level
  | [] => 0
  | n :: above => if n.level = 0 then effectiveLevel above else n.level

/-- The handlers that a record of the first logger comes to. -/
def reached : List Node → List Handler
  | [] => []
  | n :: above => n.handlers ++ if n.propagates then reached above else []

end Node

/-- All loggers of a process, and the handler for records that no handler is there for. A logger is
below those that are there under what stands in front of a dot of its name. A record comes to the
handlers of its logger and of those above it, up to one that keeps records to itself. -/
structure Tree where
  root : Node
  node : Text → Node
  /-- Whether there is a logger of some name, which there is once it has been asked for. -/
  isThere : Text → Bool
  lastResort : Handler

/-- What happens to the tree. -/
inductive Event where
  | setUp (s : Setup)
  /-- The library is set up by the flags of a command line, for the stream that errors go to. -/
  | flags (f : Flags) (stream : Stream)
  | call (c : Call)

/-- What an event sets up. -/
def Event.setup? : Event → Option Setup
  | setUp s => some s
  | flags f stream => some (.ofFlags f stream)
  | call _ => none

/-- The logger that an event is about, unless it is a setup. -/
def Event.logger? : Event → Option Text
  | call c => some c.record.logger
  | _ => none

/-- The last of the setups among some events. -/
def lastSetup? (events : List Event) : Option Setup := (events.filterMap Event.setup?).getLast?

namespace Tree

/-- Some loggers are asked for. -/
def meet (t : Tree) (names : List Text) : Tree :=
  { t with isThere := fun name => names.contains name || t.isThere name }

def setUp (t : Tree) (s : Setup) : Tree :=
  { t.meet [topName] with
    node := fun name => if name = topName then (t.node topName).setUp s else t.node name }

/-- The names of a logger and of those above it, but for the root logger. -/
def names (t : Tree) (name : Text) : List Text := name :: namesAbove t.isThere name

/-- A logger and those above it, the root logger last. -/
def chain (t : Tree) (name : Text) : List Node := (t.names name).map t.node ++ [t.root]

/-- Whether a record is taken. Nothing at or below zero is. -/
def takes (t : Tree) (r : Record) : Bool :=
  0 < r.level && Node.effectiveLevel (t.chain r.logger) ≤ r.level

/-- The handlers that a logger's records come to. -/
def handlers (t : Tree) (name : Text) : List Handler :=
  match Node.reached (t.chain name) with
  | [] => [t.lastResort]
  | hs => hs

/-- What is written for a call. -/
def deliver (t : Tree) (c : Call) : List Delivery :=
  if t.takes c.record then
    ((t.handlers c.record.logger).filter fun h => h.level ≤ c.record.level).map (·.deliver c)
  else []

def after (t : Tree) : Event → Tree
  | .setUp s => t.setUp s
  | .flags f stream => t.setUp (.ofFlags f stream)
  | .call c => t.meet [c.record.logger]

def afterAll (t : Tree) (events : List Event) : Tree := events.foldl after t

/-- What is written at an event. -/
def written (t : Tree) : Event → List Delivery
  | .call c => t.deliver c
  | _ => []

/-- What is written in the course of some events. -/
def deliveries (t : Tree) : List Event → List Delivery
  | [] => []
  | e :: events => t.written e ++ (t.after e).deliveries events

end Tree

end Log

end Stencil
