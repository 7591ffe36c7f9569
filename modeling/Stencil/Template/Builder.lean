import Stencil.Template.Block
import Stencil.Template.Error
import Stencil.Template.Token

namespace Stencil

/-- A section that is not closed yet: where its block is, its name, and where its tag is. -/
structure Builder.Open where
  index : Nat
  name : Text
  offset : Nat
deriving DecidableEq

/-- What is built so far: the blocks, the open sections from the innermost outwards, and the literal
text since the last tag in reverse. -/
structure Builder where
  blocks : Array Block := #[]
  opened : List Builder.Open := []
  pending : Text := []
deriving DecidableEq

namespace Builder

/-- Puts down a block with the pending literal text. -/
def push (b : Builder) (tag : Block.Tag) : Builder :=
  { b with blocks := b.blocks.push ⟨b.pending.reverse, tag⟩, pending := [] }

/-- The blocks after a closing one is put down and the opening one at an index is told how many
blocks follow it. -/
def pushClosing (b : Builder) (index : Nat) : Array Block :=
  let blocks := (b.push .closing).blocks
  blocks.modify index (Block.withChildren (blocks.size - index - 1))

/-- Closes the innermost section. -/
def close (b : Builder) (name : Text) (offset : Nat) : Except CompileError Builder :=
  match b.opened with
  | [] => CompileError.fail (.strayClosing name) offset
  | o :: rest =>
    if o.name ≠ name then CompileError.fail (.mismatch name o.name o.offset) offset
    else .ok ⟨b.pushClosing o.index, rest, []⟩

/-- Opens a section that no blocks belong to yet. Its block is put down before the section is read,
and is told how many blocks belong to it when the section is closed. -/
def openSection (b : Builder) (inverted : Bool) (name : FieldName) (offset : Nat) : Builder :=
  { b.push (.opening inverted name 0) with
    opened := ⟨b.blocks.size, name.text, offset⟩ :: b.opened }

/-- Takes in a tag. A comment changes nothing; every other tag needs a name. -/
def takeTag (hasher : Hasher) (b : Builder) (t : Tag) (offset : Nat) :
    Except CompileError Builder :=
  if t.kind ≠ .comment ∧ t.name = [] then CompileError.fail .emptyName offset
  else match t.kind with
    | .comment => .ok b
    | .closing => b.close t.name offset
    | .print escaped => (CompileError.hashed hasher t.name).map fun n => b.push (.print escaped n)
    | .opening inverted =>
      (CompileError.hashed hasher t.name).map fun n => b.openSection inverted n offset

/-- Takes in one token. -/
def take (hasher : Hasher) (b : Builder) : Token → Except CompileError Builder
  | .char c => .ok { b with pending := c :: b.pending }
  | .unclosed offset => CompileError.fail .unclosedTag offset
  | .tag t offset => b.takeTag hasher t offset

/-- The finished blocks, if no section is open. -/
def finish (b : Builder) : Except CompileError (Array Block) :=
  match b.opened with
  | [] => .ok (if b.pending = [] then b.blocks else (b.push .tail).blocks)
  | o :: _ => CompileError.fail (.unclosedSection o.name) o.offset

/-- The blocks of a source. -/
def build (hasher : Hasher) (source : Text) : Except CompileError (Array Block) := do
  let b ← (Token.scan source).foldlM (take hasher) {}
  b.finish

end Builder

end Stencil
