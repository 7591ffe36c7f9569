import Stencil.Field.Hash
import Stencil.Text.Quoted

namespace Stencil

inductive TemplateError.Cause where
  | emptyName
  | unclosedTag
  | unclosedSection (name : Text)
  | strayClosing (name : Text)
  | mismatch (name opened : Text) (openedAt : Nat)
deriving DecidableEq

/-- A malformed source is refused with one cause and the offset, in code points, of the tag at
fault. -/
structure TemplateError where
  cause : TemplateError.Cause
  offset : Nat
deriving DecidableEq

namespace TemplateError

def Cause.message : Cause → Text
  | emptyName => Text.of "Empty tag name"
  | unclosedTag => Text.of "Unclosed tag"
  | unclosedSection name => Text.of "Unclosed section " ++ name.quoted
  | strayClosing name => Text.of "Closing tag " ++ name.quoted ++ Text.of " without open section"
  | mismatch name opened openedAt =>
    Text.of "Closing tag " ++ name.quoted ++ Text.of " does not match section " ++ opened.quoted ++
      Text.of " opened at offset " ++ Text.ofNat openedAt

def message (e : TemplateError) : Text :=
  e.cause.message ++ Text.of " (at offset " ++ Text.ofNat e.offset ++ Text.of ")"

end TemplateError

/-- Why a source does not compile: it is malformed, or one of its names has no hash. -/
inductive CompileError where
  | malformed (e : TemplateError)
  | unhashable (name : Text)
deriving DecidableEq

namespace CompileError

/-- Refuses a source for a cause at an offset. -/
def fail {α : Type} (cause : TemplateError.Cause) (offset : Nat) : Except CompileError α :=
  .error (.malformed ⟨cause, offset⟩)

/-- A name with its hash. -/
def hashed (hasher : Hasher) (name : Text) : Except CompileError FieldName :=
  match hasher name with
  | some h => .ok ⟨name, h⟩
  | none => .error (.unhashable name)

end CompileError

end Stencil
