import Stencil.Data.Basic
import Stencil.Number.Same
import Stencil.Record.Decl
import Stencil.Text.Utf8

namespace Stencil

/-- What an application hands over to be rendered. A template sees each kind as a value of its own
few kinds. -/
inductive Input where
  | nothing
  | bool (b : Bool)
  | number (n : Number)
  | text (t : Text)
  /-- A text that is marked as safe. -/
  | marked (t : Text)
  | bytes (mutable : Bool) (content : Bytes)
  | list (items : List Input)
  | tuple (items : List Input)
  | range (start stop step : Int)
  | set (items : List Input)
  /-- A mapping; an ordered one is shown as the list of its entries. -/
  | mapping (ordered : Bool) (entries : List (Input × Input))
  /-- A value of a type that templates know nothing about. -/
  | object
  | optional (inner : Input) (present : Bool)
  | success (inner : Input)
  | failure (error : Text)
  | exception (error : Text)
  /-- A value that is already wrapped for a template. -/
  | adapted (inner : Input)
  | record (type : RecordType) (attrs : List (Text × Input))
  | custom (c : Content Value)

namespace Input

instance : Inhabited Input := ⟨nothing⟩

/-- The number that a value is, a boolean counting as zero or one. -/
def number? : Input → Option Number
  | bool b => some (.int (if b then 1 else 0))
  | number n => some n
  | _ => none

/-- The text that a value is, marked or not. -/
def text? : Input → Option Text
  | text t => some t
  | marked t => some t
  | _ => none

mutual

/-- Whether a value can be a key: it cannot be changed, it compares with others as a value or as
itself, and so do its items. A signalling decimal refuses to be compared. -/
def isKey : Input → Bool
  | number (.decimal d) => d.nonzero?.isSome
  | bytes mutable _ => !mutable
  | list _ => false
  | tuple items => areKeys items
  | set _ => false
  | mapping _ _ => false
  | record type _ => type.fields.isNone
  | _ => true

def areKeys : List Input → Bool
  | [] => true
  | i :: is => i.isKey && areKeys is

end

/-- The numbers of a range. -/
def rangeItems (start stop step : Int) : List Int :=
  let count :=
    if 0 < step then (stop - start + step - 1) / step else (start - stop - step - 1) / -step
  (List.range count.toNat).map fun (k : Nat) => start + k * step

mutual

/-- Whether two keys are the same. A value of a kind that compares only with itself is the same as
no other one. -/
def isSameKey : Input → Input → Bool
  | nothing, nothing => true
  | bytes _ b, bytes _ c => b == c
  | tuple is, tuple js => areSameKeys is js
  | range a b c, range d e f => rangeItems a b c == rangeItems d e f
  | i, j =>
    match i.number?, j.number? with
    | some m, some n => m.isSame n
    | _, _ =>
      match i.text?, j.text? with
      | some t, some u => t == u
      | _, _ => false

def areSameKeys : List Input → List Input → Bool
  | [], [] => true
  | i :: is, j :: js => i.isSameKey j && areSameKeys is js
  | _, _ => false

end

/-- The key that a template sees. -/
def key (i : Input) : Key :=
  match i.text? with
  | some t => .name t
  | none => .other

/-- A key with what is shown of it, and the value of the key. -/
abbrev Keyed (κ α : Type) := (Input × κ) × α

/-- Puts a value in the place of the one with the same key, or at the end. -/
def putKeyed {κ α : Type} (key : Input × κ) (v : α) : List (Keyed κ α) → List (Keyed κ α)
  | [] => [(key, v)]
  | e :: es => if e.1.1.isSameKey key.1 then (e.1, v) :: es else e :: putKeyed key v es

/-- What is shown of each key once, with its last value. A key stands where the first of its equals
stands. -/
def merge {κ α : Type} (entries : List (Keyed κ α)) : List (κ × α) :=
  (entries.foldl (fun es e => putKeyed e.1 e.2 es) []).map fun e => (e.1.2, e.2)

mutual

/-- The value that a template sees. -/
def toValue : Input → Value
  | nothing => .absent
  | bool b => .bool b
  | number n => .number n
  | text t => .text t
  | marked t => .text t
  | list items => .sequence (itemValues items)
  | tuple items => .sequence (itemValues items)
  | range start stop step =>
    .sequence ((rangeItems start stop step).map fun n => .number (.int n))
  | mapping _ entries => .mapping (merge (entryValues entries))
  | optional inner present => .optional inner.toValue present
  | success inner => .success inner.toValue
  | failure error => .failure error
  | exception error => .exception error
  | adapted inner => .adapted inner.toValue
  | record type attrs =>
    match type.table with
    | some table => .record table (attrValues attrs)
    | none => .bare
  | custom c => .custom c
  | _ => .bare

def itemValues : List Input → List Value
  | [] => []
  | i :: is => i.toValue :: itemValues is

def entryValues : List (Input × Input) → List (Keyed Key Value)
  | [] => []
  | (k, i) :: es => ((k, k.key), i.toValue) :: entryValues es

def attrValues : List (Text × Input) → List (Text × Value)
  | [] => []
  | (name, i) :: as => (name, i.toValue) :: attrValues as

end

/-- The notation of bytes: ASCII between quotes, and every other byte by its number. A mutable run
of bytes has its single quotes escaped whatever quotes it stands between. -/
def bytesNotation (mutable : Bool) (content : Bytes) : Notation :=
  let ascii := content.map fun b => CodePoint.ofNat (if b < 0x80 then b.toNat else 0x100 + b.toNat)
  let shown := (Text.quoted ascii).flatMap fun c =>
    if c.val < 0x100 then [c] else Text.escapeNumber (CodePoint.ofNat (c.val - 0x100))
  let shown := if mutable && shown.head? == some Text.doubleQuote then
    shown.flatMap fun c => if c = Text.singleQuote then [Text.backslash, c] else [c]
  else shown
  .word (Text.of "b" ++ shown)

/-- The items of a set in the order in which they are shown: whole numbers in ascending order,
others as they are given. -/
def setOrder (items : List (Input × Notation)) : List Notation :=
  let whole (e : Input × Notation) : Option Int :=
    match e.1.number? with
    | some (.int n) => some n
    | some (.float x) => x.toInt?
    | _ => none
  let once := (merge (items.map fun e => ((e.1, e), ()))).map Prod.fst
  let sorted := if once.all fun e => (whole e).isSome then
    once.mergeSort fun a b => (whole a).getD 0 ≤ (whole b).getD 0
  else once
  sorted.map Prod.snd

/-- A name with arguments. -/
def callOf (name : String) (arguments : List Notation) : Notation := .call (Text.of name) arguments

mutual

/-- The notation in a message. What has no notation of its own shows nothing. -/
def toNotation : Input → Notation
  | nothing => .nothing
  | bool b => .ofBool b
  | number n => .ofNumber n
  | text t => .text t
  | marked t => .titled (.text t) (callOf "Markup" [.text t])
  | bytes mutable content =>
    if mutable then callOf "bytearray" [bytesNotation true content] else bytesNotation false content
  | list items => .list ((itemNotations items).map Prod.snd)
  | tuple items => .tuple ((itemNotations items).map Prod.snd)
  | range start stop step =>
    callOf "range" ([.ofInt start, .ofInt stop] ++ if step = 1 then [] else [.ofInt step])
  | set items => .set (setOrder (itemNotations items))
  | mapping ordered entries =>
    let entries := merge (entryNotations entries)
    if !ordered then .mapping entries
    else callOf "OrderedDict" (if entries.isEmpty then []
      else [.list (entries.map fun e => .tuple [e.1, e.2])])
  | exception error => .titled (.word error.quoted) (callOf "KeyError" [.text error])
  | record type attrs =>
    let shown := attrNotations attrs
    match type.fields with
    | some fields =>
      .record type.name (fields.map fun f => (f.name, (shown.lookup f.name).getD .nothing))
    | none => .word []
  | _ => .word []

def itemNotations : List Input → List (Input × Notation)
  | [] => []
  | i :: is => (i, i.toNotation) :: itemNotations is

def entryNotations : List (Input × Input) → List (Keyed Notation Notation)
  | [] => []
  | (k, i) :: es => ((k, k.toNotation), i.toNotation) :: entryNotations es

def attrNotations : List (Text × Input) → List (Text × Notation)
  | [] => []
  | (name, i) :: as => (name, i.toNotation) :: attrNotations as

end

end Input

end Stencil
