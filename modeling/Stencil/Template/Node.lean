import Stencil.Template.Block
import Stencil.Template.Error
import Stencil.Template.Token

namespace Stencil

/-- Sections are nested, comments are dropped, and the literal text between two other tags is one
node. -/
inductive Node where
  | literal (t : Text)
  | print (escaped : Bool) (name : FieldName)
  /-- A section, or an inverse one, with its body. -/
  | nested (inverted : Bool) (name : FieldName) (body : List Node)

namespace Node

/-- An open section and the nodes before it in its own body, latest first. -/
structure Frame where
  inverted : Bool
  name : FieldName
  offset : Nat
  before : List Node

/-- What is read so far: the open sections from the innermost outwards, the nodes of the innermost
body, and the literal text since the last tag; the last two are in reverse. -/
structure Progress where
  frames : List Frame := []
  nodes : List Node := []
  pending : Text := []

namespace Progress

/-- The nodes with the pending literal text among them. -/
def flush (p : Progress) : List Node :=
  if p.pending = [] then p.nodes else .literal p.pending.reverse :: p.nodes

/-- Closes the innermost section. -/
def close (p : Progress) (name : Text) (offset : Nat) : Except CompileError Progress :=
  match p.frames with
  | [] => CompileError.fail (.strayClosing name) offset
  | f :: fs =>
    if f.name.text ≠ name then CompileError.fail (.mismatch name f.name.text f.offset) offset
    else .ok ⟨fs, .nested f.inverted f.name p.flush.reverse :: f.before, []⟩

/-- Takes in a tag. A comment changes nothing; every other tag needs a name. -/
def takeTag (hasher : Hasher) (p : Progress) (t : Tag) (offset : Nat) :
    Except CompileError Progress :=
  if t.kind ≠ .comment ∧ t.name = [] then CompileError.fail .emptyName offset
  else match t.kind with
    | .comment => .ok p
    | .closing => p.close t.name offset
    | .print escaped =>
      (CompileError.hashed hasher t.name).map fun n => ⟨p.frames, .print escaped n :: p.flush, []⟩
    | .opening inverted =>
      (CompileError.hashed hasher t.name).map fun n =>
        ⟨⟨inverted, n, offset, p.flush⟩ :: p.frames, [], []⟩

/-- Takes in one token. -/
def take (hasher : Hasher) (p : Progress) : Token → Except CompileError Progress
  | .char c => .ok { p with pending := c :: p.pending }
  | .unclosed offset => CompileError.fail .unclosedTag offset
  | .tag t offset => p.takeTag hasher t offset

/-- The finished tree, if no section is open. -/
def finish (p : Progress) : Except CompileError (List Node) :=
  match p.frames with
  | [] => .ok p.flush.reverse
  | f :: _ => CompileError.fail (.unclosedSection f.name.text) f.offset

end Progress

/-- The parse tree of a source. -/
def parse (hasher : Hasher) (source : Text) : Except CompileError (List Node) := do
  let p ← (Token.scan source).foldlM (Progress.take hasher) {}
  p.finish

end Node

namespace Block

mutual

/-- The blocks of a node after some pending literal text, and the text pending after it. -/
def ofNode (pending : Text) : Node → List Block × Text
  | .literal t => ([], pending ++ t)
  | .print escaped name => ([⟨pending, .print escaped name⟩], [])
  | .nested inverted name body =>
    let inner := ofNodes [] body
    (⟨pending, .opening inverted name (inner.1.length + 1)⟩ :: inner.1 ++ [⟨inner.2, .closing⟩], [])

/-- The blocks of some nodes, and the literal text pending after them. -/
def ofNodes (pending : Text) : List Node → List Block × Text
  | [] => ([], pending)
  | n :: ns =>
    let first := ofNode pending n
    let rest := ofNodes first.2 ns
    (first.1 ++ rest.1, rest.2)

end

/-- The blocks of a whole tree. They are its nodes in order, the literal text before each tag put
into its block. -/
def ofTree (nodes : List Node) : List Block :=
  let r := ofNodes [] nodes
  if r.2 = [] then r.1 else r.1 ++ [⟨r.2, .tail⟩]

end Block

end Stencil
