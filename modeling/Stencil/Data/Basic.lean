import Stencil.Data.Notation
import Stencil.Number.Places
import Stencil.Value.Basic

namespace Stencil

/-- An item of data that is told apart only as a text or not. -/
inductive Foreign.Item where
  | text (t : Text)
  /-- An item that is no text, by its notation. -/
  | other (shown : Text)
deriving DecidableEq

/-- Data of a kind that templates know nothing about, like a date, a set or a run of bytes. -/
structure Foreign where
  /-- The name of the kind. -/
  type : Text
  falsy : Bool := false
  /-- What is shown of it alone. -/
  plain : Text
  /-- What is shown of it inside other data. -/
  inner : Text
  /-- What it lists, if it can be listed. -/
  items : Option (List Foreign.Item) := none
deriving DecidableEq

/-- Data without parts. Keys of a mapping are scalars. -/
inductive Scalar where
  | null
  | bool (b : Bool)
  | int (n : Int)
  | float (x : Binary64)
  | text (t : Text)
  | foreign (f : Foreign)
deriving DecidableEq

/-- What a data file or a configuration file holds. The entries of a mapping stand in the order in
which their keys first occur. -/
inductive Data where
  | scalar (s : Scalar)
  | list (items : List Data)
  | mapping (entries : List (Scalar × Data))

/-- What a handler tells apart in the errors of a reader of documents. -/
inductive ReadError.Kind where
  /-- The text is no document. -/
  | malformed
  /-- The bytes are no text. -/
  | undecodable
  /-- Something in the document has a form but no value. -/
  | value
  | other
deriving DecidableEq

/-- Why a document cannot be read, and what is said about it. -/
structure ReadError where
  kind : ReadError.Kind
  message : Text
deriving DecidableEq

namespace Scalar

/-- Nothing, no, zero, or an empty text. -/
def isFalsy : Scalar → Bool
  | null => true
  | bool b => !b
  | int n => n == 0
  | float x => x.isZero
  | text t => t.isEmpty
  | foreign f => f.falsy

/-- The notation of a scalar inside a message. -/
def toNotation : Scalar → Notation
  | null => .nothing
  | bool b => .ofBool b
  | int n => .ofInt n
  | float x => .number (.float x)
  | text t => .text t
  | foreign f => .titled (.word f.plain) (.word f.inner)

/-- The whole number that a scalar is. -/
def toInt? : Scalar → Option Int
  | bool b => some (if b then 1 else 0)
  | int n => some n
  | float x => x.toInt?
  | _ => none

/-- Whether two scalars are one key, like one number in two forms, where a boolean counts as zero or
one. What is no number is a key only together with itself. -/
def isSameKey (a b : Scalar) : Bool :=
  match a, b with
  | float .nan, _ => false
  | _, _ => a == b || (a.toInt?.isSome && a.toInt? == b.toInt?)

/-- The value that a template sees. Of data of another kind it sees nothing. -/
def toValue : Scalar → Value
  | null => .absent
  | bool b => .bool b
  | int n => .number (.int n)
  | float x => .number (.float x)
  | text t => .text t
  | foreign _ => .bare

def toKey : Scalar → Key
  | text t => .name t
  | _ => .other

end Scalar

/-- An item as data of its own. -/
def Foreign.Item.toData : Foreign.Item → Data
  | text t => .scalar (.text t)
  | other shown => .scalar (.foreign { type := [], plain := shown, inner := shown })

namespace Data

instance : Inhabited Data := ⟨.scalar .null⟩

def null : Data := .scalar .null

def text (t : Text) : Data := .scalar (.text t)

/-- The text, if the data is one. -/
def text? : Data → Option Text
  | .scalar (.text t) => some t
  | _ => none

/-- A falsy scalar, or a list or mapping that holds nothing. -/
def isFalsy : Data → Bool
  | .scalar s => s.isFalsy
  | .list items => items.isEmpty
  | .mapping entries => entries.isEmpty

/-- Puts an entry in the place of the one with the same key, which it leaves as it is written, or at
the end. -/
def put (key : Scalar) (d : Data) : List (Scalar × Data) → List (Scalar × Data)
  | [] => [(key, d)]
  | e :: es => if e.1.isSameKey key then (e.1, d) :: es else e :: put key d es

/-- The entries of a mapping in which later values of a key replace earlier ones. -/
def ofEntries (entries : List (Scalar × Data)) : Data :=
  .mapping (entries.foldl (fun es e => put e.1 e.2 es) [])

mutual

/-- The notation of data inside a message. -/
def toNotation : Data → Notation
  | .scalar s => s.toNotation
  | .list items => .list (itemNotations items)
  | .mapping entries => .mapping (entryNotations entries)

def itemNotations : List Data → List Notation
  | [] => []
  | d :: ds => d.toNotation :: itemNotations ds

def entryNotations : List (Scalar × Data) → List (Notation × Notation)
  | [] => []
  | (k, d) :: es => (k.toNotation, d.toNotation) :: entryNotations es

end

mutual

/-- The value that a template sees. -/
def toValue : Data → Value
  | .scalar s => s.toValue
  | .list items => .sequence (itemValues items)
  | .mapping entries => .mapping (entryValues entries)

def itemValues : List Data → List Value
  | [] => []
  | d :: ds => d.toValue :: itemValues ds

def entryValues : List (Scalar × Data) → List (Key × Value)
  | [] => []
  | (k, d) :: es => (k.toKey, d.toValue) :: entryValues es

end

end Data

end Stencil
