import Stencil.Template.Builder

namespace Stencil

/-- A compiled template holds its blocks and no state, so it can be rendered any number of times. -/
structure Template where
  blocks : List Block
deriving DecidableEq

namespace Template

/-- Compiles a source with some hash of its names. -/
def compileWith (hasher : Hasher) (source : Text) : Except CompileError Template :=
  (Builder.build hasher source).map fun blocks => ⟨blocks.toList⟩

def compile (source : Text) : Except CompileError Template := compileWith Hasher.standard source

/-- UTF-8 bytes of the literal text. -/
def literalSize (t : Template) : Nat := t.blocks.foldr (fun b n => b.html.utf8Size + n) 0

/-- The number of blocks. -/
def size (t : Template) : Nat := t.blocks.length

end Template

end Stencil
