import Stencil.Render.Walk

namespace Stencil

/-- The blocks of a template from an index up to another. -/
structure Slice where
  start : Nat
  stop : Nat
deriving DecidableEq

/-- What the blocks of a slice ask for with a value. -/
def Slice.script (t : Template) (convert : Conversion) (s : Slice) (v : Value) : Script :=
  t.scriptSlice convert s.start s.stop v

/-- What is left to do: some blocks with a value, or the rest of a section over some blocks. -/
inductive Walker.Task where
  | blocks (s : Slice) (v : Value)
  | nested (s : Slice) (p : Plan Value)

/-- A walk over blocks as a machine that goes by indices. It keeps what is left to do, the innermost
task first, what it has asked for, and which runs of blocks it has handed on as sections. -/
structure Walker where
  tasks : List Walker.Task
  requests : List Request := []
  fault : Option Fault := none
  handed : List Slice := []

namespace Walker

/-- Starts with one value. -/
def ofSlice (s : Slice) (v : Value) : Walker := { tasks := [.blocks s v] }

/-- Asks for what a script asks for and goes on with some tasks, or with none if the script is
stopped. -/
def proceed (w : Walker) (a : Script) (tasks : List Task) : Walker where
  tasks := match a.fault with
    | none => tasks
    | some _ => []
  requests := w.requests ++ a.requests
  fault := a.fault
  handed := w.handed

/-- Hands a section on. -/
def hand (w : Walker) (s : Slice) : Walker := { w with handed := w.handed ++ [s] }

/-- Puts down the block at the start of a slice, with some tasks behind it. -/
def stepBlock (convert : Conversion) (w : Walker) (b : Block) (s : Slice) (v : Value)
    (rest : List Task) : Walker :=
  let next := .blocks ⟨s.start + 1 + b.tag.children, s.stop⟩ v :: rest
  match b.tag with
  | .print escaped name =>
    w.proceed ((Block.writeHtml b.html).andThen (v.scriptTag convert escaped name)) next
  | .opening inverted name children =>
    let nested : Slice := ⟨s.start + 1, s.start + 1 + children⟩
    (w.hand nested).proceed (Block.writeHtml b.html)
      (.nested nested (v.tagPlan convert inverted name) :: next)
  | .closing => w.proceed (Block.writeHtml b.html) next
  | .tail => w.proceed (Block.writeHtml b.html) next

/-- One step of the innermost task. -/
def step (t : Template) (convert : Conversion) (w : Walker) : Walker :=
  match w.tasks with
  | [] => w
  | .nested _ ⟨[], none⟩ :: rest => { w with tasks := rest }
  | .nested _ ⟨[], some f⟩ :: _ => w.proceed (.fail f) []
  | .nested s ⟨.ask r :: steps, f⟩ :: rest => w.proceed (.ask r) (.nested s ⟨steps, f⟩ :: rest)
  | .nested s ⟨.body v :: steps, f⟩ :: rest =>
    { w with tasks := .blocks s v :: .nested s ⟨steps, f⟩ :: rest }
  | .blocks s v :: rest =>
    if s.stop ≤ s.start then { w with tasks := rest }
    else match t.blocks[s.start]? with
      | some b => w.stepBlock convert b s v rest
      | none => w.proceed (.fail .pastEnd) []

end Walker

end Stencil
