import Stencil.Field.Blake2b

namespace Stencil

/-- Any whole number serves as a hash. -/
abbrev Hash := Int

/-- The hash of a name, for the names that have one. Any function will do as long as templates and
field tables use the same one, because a lookup compares the names as well. -/
abbrev Hasher := Text → Option Hash

namespace Hasher

/-- The BLAKE2b hash of the UTF-8 form; a name with a surrogate has none. -/
def standard : Hasher := fun name =>
  (Utf8.encode? name).map fun bs => ((Blake2b.digest bs).toNat : Int)

/-- The number of code points, under which names of one length collide. -/
def length : Hasher := fun name => some (name.length : Int)

/-- One hash for every name. -/
def constant (h : Hash) : Hasher := fun _ => some h

theorem standard_isSome_iff (name : Text) :
    (standard name).isSome = true ↔ name.hasSurrogate = false := by
  unfold standard Utf8.encode?
  cases name.hasSurrogate <;> simp

end Hasher

/-- A name in a template together with its hash. -/
structure FieldName where
  text : Text
  hash : Hash
deriving DecidableEq

namespace FieldName

/-- The name of the current value itself. -/
def dot : Text := [CodePoint.ofChar '.']

def isDot (n : FieldName) : Bool := n.text == dot

end FieldName

end Stencil
