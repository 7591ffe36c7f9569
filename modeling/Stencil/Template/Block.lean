import Stencil.Field.Hash

namespace Stencil

/-- The tag of a block, or what stands for it. -/
inductive Block.Tag where
  | print (escaped : Bool) (name : FieldName)
  | opening (inverted : Bool) (name : FieldName) (children : Nat)
  | closing
  | tail
deriving DecidableEq

/-- The literal text before a tag and the tag itself. An opening tag counts the blocks that belong
to it, its closing block included. Literal text after the last tag is a block of its own. -/
structure Block where
  html : Text
  tag : Block.Tag
deriving DecidableEq

namespace Block

namespace Tag

/-- The name of a tag that has one. -/
def name? : Tag → Option FieldName
  | print _ n => some n
  | opening _ n _ => some n
  | _ => none

/-- The number of blocks that belong to a tag. -/
def children : Tag → Nat
  | opening _ _ n => n
  | _ => 0

/-- The tag with another number of blocks, if any belong to it at all. -/
def withChildren (count : Nat) : Tag → Tag
  | opening inverted name _ => opening inverted name count
  | t => t

end Tag

/-- The block with another number of blocks that belong to it. -/
def withChildren (count : Nat) (b : Block) : Block := { b with tag := b.tag.withChildren count }

end Block

end Stencil
