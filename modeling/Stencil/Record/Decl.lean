import Stencil.Field.Table
import Stencil.Text.Identifier
import Stencil.Text.Quoted

namespace Stencil

/-- A declared field and how templates see it. -/
structure FieldDecl where
  name : Text
  markdown : Bool := false
  skip : Bool := false
  rename : Option Text := none
deriving DecidableEq

namespace FieldDecl

/-- The name in templates: the new name unless it is empty, else the declared one. -/
def templateName (f : FieldDecl) : Text :=
  match f.rename with
  | some n => if n = [] then f.name else n
  | none => f.name

/-- Puts a declaration in the place of one with the same name, or at the end. -/
def override (f : FieldDecl) : List FieldDecl → List FieldDecl
  | [] => [f]
  | g :: gs => if g.name = f.name then f :: gs else g :: override f gs

/-- The words that cannot be the name of a field. -/
def reservedWords : List String :=
  ["False", "None", "True", "and", "as", "assert", "async", "await", "break", "class", "continue",
    "def", "del", "elif", "else", "except", "finally", "for", "from", "global", "if", "import", "in",
    "is", "lambda", "nonlocal", "not", "or", "pass", "raise", "return", "try", "while", "with",
    "yield", "__slots__", "__qualname__", "__classcell__"]

/-- Whether a text can be the name of a field. -/
def isName (t : Text) : Bool := t.isIdentifier && !reservedWords.any fun w => Text.of w == t

end FieldDecl

inductive RecordError where
  | notARecord (type : Text)
  | duplicateName (name type : Text)
  /-- A template name that has no hash. -/
  | unhashable (name : Text)
  /-- No earlier type has the name of the type to extend. -/
  | unknownBase (name : Text)
  /-- A name that no field can have. -/
  | badField (name : Text)
  /-- A field that one declaration lists twice. -/
  | repeatedField (name : Text)
  /-- A type name with a NUL. -/
  | nullInName
  /-- A type name with a surrogate. -/
  | unencodableName
deriving DecidableEq

def RecordError.message : RecordError → Text
  | notARecord type => type ++ Text.of " must be a dataclass to be renderable"
  | duplicateName name type =>
    Text.of "Duplicate template field name " ++ name.quoted ++ Text.of " on " ++ type
  | unhashable name => Text.of "surrogates not allowed in " ++ name.quoted
  | unknownBase name => name.quoted
  | badField name => Text.of "Field names must be valid identifiers: " ++ name.quoted
  | repeatedField name => Text.of "Field name duplicated: " ++ name.quoted
  | nullInName => Text.of "type name must not contain null characters"
  | unencodableName => Text.of "surrogates not allowed"

/-- A declaration as written. A type may extend an earlier one: inherited fields come first, and a
field declared again keeps its place and takes its new options. A plain class declares no fields of
its own and is a record only if it extends one. -/
structure RecordDecl where
  name : Text
  fields : List FieldDecl
  base : Option Text := none
  plain : Bool := false
  register : Bool := true

/-- A declared type: its fields, unless it is no record, and the table its values are shown through,
unless neither it nor a type below it is registered. Values of a type that is not registered are
shown through the nearest registered type below it. -/
structure RecordType where
  name : Text
  fields : Option (List FieldDecl)
  table : Option FieldTable

namespace RecordType

/-- The fields that templates see, after the names in `seen` are taken. -/
def visible (hasher : Hasher) (type : Text) : (seen : List Text) → List FieldDecl →
    Except RecordError (List FieldSpec)
  | _, [] => .ok []
  | seen, f :: fs =>
    if f.skip then visible hasher type seen fs
    else
      let n := f.templateName
      if seen.contains n then .error (.duplicateName n type)
      else match hasher n with
        | none => .error (.unhashable n)
        | some h =>
          (visible hasher type (n :: seen) fs).map fun specs => ⟨n, f.name, h, f.markdown⟩ :: specs

/-- The field table of a type that declares these fields. -/
def buildTable (hasher : Hasher) (type : Text) : Option (List FieldDecl) →
    Except RecordError FieldTable
  | none => .error (.notARecord type)
  | some fs => (visible hasher type [] fs).map FieldTable.ofSpecs

end RecordType

namespace RecordDecl

/-- The type that a declaration extends, if any, among the earlier ones. -/
def baseIn (d : RecordDecl) (types : List RecordType) : Except RecordError (Option RecordType) :=
  match d.base with
  | none => .ok none
  | some b =>
    match types.find? fun t => t.name == b with
    | some t => .ok (some t)
    | none => .error (.unknownBase b)

/-- The fields of the declared type, inherited ones included. -/
def fieldsOver (d : RecordDecl) (base : Option RecordType) : Option (List FieldDecl) :=
  let inherited := base.bind RecordType.fields
  if d.plain then inherited
  else some (d.fields.foldl (fun fs f => f.override fs) (inherited.getD []))

/-- Checks the names of fields after the names in `seen`. -/
def checkFields : (seen : List Text) → List FieldDecl → Except RecordError Unit
  | _, [] => .ok ()
  | seen, f :: fs =>
    if !FieldDecl.isName f.name then .error (.badField f.name)
    else if seen.contains f.name then .error (.repeatedField f.name)
    else checkFields (f.name :: seen) fs

/-- Checks the names in a declaration. A plain class has no fields to check. -/
def checkNames (d : RecordDecl) : Except RecordError Unit := do
  if !d.plain then checkFields [] d.fields
  if d.name.hasSurrogate then .error .unencodableName
  if d.name.any fun c => c.val = 0 then .error .nullInName

/-- Declares a type after the earlier ones. -/
def declare (hasher : Hasher) (types : List RecordType) (d : RecordDecl) :
    Except RecordError RecordType := do
  let base ← d.baseIn types
  d.checkNames
  let fields := d.fieldsOver base
  if d.register then
    let table ← RecordType.buildTable hasher d.name fields
    return ⟨d.name, fields, some table⟩
  else return ⟨d.name, fields, base.bind RecordType.table⟩

/-- Declares types in order; the latest declaration of a name comes first. -/
def declareAll (hasher : Hasher) (ds : List RecordDecl) : Except RecordError (List RecordType) :=
  ds.foldlM (fun types d => (declare hasher types d).map (· :: types)) []

/-- The field table of the last of some declarations, whether it registers itself or not. -/
def tableOfLast (tableHasher hasher : Hasher) (ds : List RecordDecl) :
    Except RecordError FieldTable :=
  match ds.getLast? with
  | none => .ok (FieldTable.ofSpecs [])
  | some d => do
    let types ← declareAll hasher ds.dropLast
    let base ← d.baseIn types
    d.checkNames
    RecordType.buildTable tableHasher d.name (d.fieldsOver base)

end RecordDecl

end Stencil
