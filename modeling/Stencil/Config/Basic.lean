import Stencil.Config.Reference
import Stencil.FileSystem.Path

namespace Stencil

/-- Where output goes, in which character set files are, and which Markdown extensions are on. The
path and the character set are kept as the data they are. -/
structure Config where
  /-- The output path; falsy data stands for standard output. -/
  path : Data := .null
  /-- The character set of templates, data and output. -/
  charset : Data := Data.text (Text.of "utf-8")
  extensions : List Text := []
  /-- The file that the configuration was read from. -/
  source : Option Path := none

namespace Config

def outputName : Text := Text.of "output"

def markdownName : Text := Text.of "markdown"

/-- The keys that are no section, in order; every key must be a text. -/
def unknownKeys : List (Scalar × Data) → Except ConfigError (List Text)
  | [] => .ok []
  | (.text t, _) :: es =>
    (unknownKeys es).map fun ts => if t = outputName ∨ t = markdownName then ts else t :: ts
  | _ :: _ => .error .unnamedSection

/-- Fails if there are unknown keys. -/
def checkKeys (entries : List (Scalar × Data)) : Except ConfigError Unit :=
  match unknownKeys entries with
  | .error e => .error e
  | .ok [] => .ok ()
  | .ok names => .error (.unknownSections (names.mergeSort Text.le))

/-- The entries of a section; a missing or falsy section has none. -/
def sectionOf (name : Text) (entries : List (Scalar × Data)) :
    Except ConfigError (List (Scalar × Data)) :=
  match entries.lookup (.text name) with
  | none => .ok []
  | some (.mapping es) => .ok es
  | some d => if d.isFalsy then .ok [] else .error (.notAMapping name)

/-- The entry of a key, or a default if there is none. -/
def entryOr (default : Data) (key : String) (entries : List (Scalar × Data)) : Data :=
  (entries.lookup (.text (Text.of key))).getD default

/-- What a scalar lists: the code points of a text, and the items of data of another kind that has
some. -/
def scalarListed? : Scalar → Option (List Data)
  | .text t => some (t.map fun c => Data.text [c])
  | .foreign f => f.items.map fun items => items.map Foreign.Item.toData
  | _ => none

/-- What data lists: the items of a list, the keys of a mapping, and what a scalar lists. A falsy
scalar lists nothing. -/
def listed? : Data → Option (List Data)
  | .list items => some items
  | .mapping entries => some (entries.map fun e => .scalar e.1)
  | .scalar s => if s.isFalsy then some [] else scalarListed? s

/-- The names of extensions. -/
def namesOf (d : Data) : Except ConfigError (List Text) :=
  match listed? d with
  | none => .error .unlistable
  | some items =>
    match items.mapM Data.text? with
    | some names => .ok names
    | none =>
      match (Data.list items).toNotation.inner? with
      | some shown => .error (.notNames shown)
      | none => .error .tooManyDigits

/-- The configuration of the entries of a document, without its source: first the keys are checked,
then every reference is replaced, then the sections are checked. -/
def ofEntries (env : Environment) (entries : List (Scalar × Data)) : Except ConfigError Config := do
  checkKeys entries
  let expanded ← Data.expandEntries env entries
  let output ← sectionOf outputName expanded
  let markdown ← sectionOf markdownName expanded
  let extensions ← namesOf (entryOr .null "extensions" markdown)
  return { path := entryOr .null "path" output
           charset := entryOr (Data.text (Text.of "utf-8")) "encoding" output
           extensions }

end Config

end Stencil
