import Stencil.FileSystem.Entry
import Stencil.FileSystem.Path

namespace Stencil

/-- Why a path cannot be used. -/
inductive FileError where
  | notFound
  | notADirectory
  | isADirectory
  | alreadyThere
  | nameTooLong
  | nullInName
  /-- A code point of the path has no bytes. -/
  | unencodableName
deriving DecidableEq

namespace FileError

def message : FileError → Text
  | notFound => Text.of "No such file or directory"
  | notADirectory => Text.of "Not a directory"
  | isADirectory => Text.of "Is a directory"
  | alreadyThere => Text.of "File exists"
  | nameTooLong => Text.of "File name too long"
  | nullInName => Text.of "embedded null byte"
  | unencodableName => Text.of "surrogates not allowed"

/-- Whether it is the system that refuses the path. -/
def isSystem : FileError → Bool
  | nullInName => false
  | unencodableName => false
  | _ => true

end FileError

namespace Path

/-- The most bytes of a name. -/
def nameLimit : Nat := 255

/-- The most bytes of a whole path. -/
def lengthLimit : Nat := 4095

/-- Whether a code point of a name has no bytes. Some surrogates stand for single bytes. -/
def isLost (c : CodePoint) : Bool := c.isSurrogate && !(0xDC80 ≤ c.val && c.val ≤ 0xDCFF)

/-- Why a written path is refused whatever the files are. -/
def fault? (t : Text) : Option FileError :=
  if t.any isLost then some .unencodableName
  else if t.any fun c => c.val == 0 then some .nullInName
  else if lengthLimit < t.utf8Size then some .nameTooLong
  else none

end Path

/-- A tree of entries and a working directory. -/
structure FileSystem where
  root : Entry
  /-- The names that lead from the root to the working directory. -/
  cwd : List Text := []

namespace FileSystem

/-- Follows names from a place; empty names and single dots stay there. -/
def follow (root : Entry) : (place : List Text) → List Text → Except FileError (List Text)
  | place, [] => .ok place
  | place, n :: ns =>
    match root.at? place with
    | none => .error .notFound
    | some (.file _) => .error .notADirectory
    | some (.directory es) =>
      if n = [] ∨ n = Path.here then follow root place ns
      else if n = Path.above then follow root place.dropLast ns
      else if Path.nameLimit < n.utf8Size then .error .nameTooLong
      else if (es.lookup n).isSome then follow root (place ++ [n]) ns
      else .error .notFound

/-- The place that a path leads to. -/
def locate (fs : FileSystem) (p : Path) : Except FileError (List Text) :=
  match Path.fault? p.toText with
  | some e => .error e
  | none => follow fs.root (if p.isAbsolute then [] else fs.cwd) p.parts

/-- The entry at a place that is there. -/
def entryAt (fs : FileSystem) (place : List Text) : Except FileError Entry :=
  match fs.root.at? place with
  | some e => .ok e
  | none => .error .notFound

/-- The entry that a path leads to. -/
def entry (fs : FileSystem) (p : Path) : Except FileError Entry := fs.locate p >>= fs.entryAt

/-- The entry that a written path leads to. A slash at its end asks for a directory. -/
def entryOfText (fs : FileSystem) (t : Text) : Except FileError Entry :=
  match Path.fault? t with
  | some e => .error e
  | none =>
    if t = [] then .error .notFound
    else
      follow fs.root (if Path.rootOf t = [] then fs.cwd else []) (Text.splitOn Path.separator t) >>=
        fs.entryAt

def holds (fs : FileSystem) (p : Path) : Bool := (fs.entry p).isOk

def isFile (fs : FileSystem) (p : Path) : Bool :=
  match fs.entry p with
  | .ok (.file _) => true
  | _ => false

def isDirectory (fs : FileSystem) (p : Path) : Bool :=
  match fs.entry p with
  | .ok (.directory _) => true
  | _ => false

/-- The content of a file. -/
def read (fs : FileSystem) (p : Path) : Except FileError Bytes :=
  match fs.entry p with
  | .ok (.file content) => .ok content
  | .ok (.directory _) => .error .isADirectory
  | .error e => .error e

/-- The directory that holds the last name of a path, and that name. A path without a last name
leads to a directory itself. -/
def locateLast (fs : FileSystem) (p : Path) : Except FileError (List Text × Option Text) :=
  match Path.fault? p.toText, p.parts.getLast? with
  | some e, _ => .error e
  | none, none => .ok (if p.isAbsolute then [] else fs.cwd, none)
  | none, some n => do
    let place ← fs.locate p.parent
    match fs.root.at? place with
    | some (.directory _) =>
      if n = Path.above then .ok (place, none)
      else if Path.nameLimit < n.utf8Size then .error .nameTooLong
      else .ok (place, some n)
    | some (.file _) => .error .notADirectory
    | none => .error .notFound

/-- Puts an entry at a place. -/
def putAt (fs : FileSystem) (place : List Text) (e : Entry) : FileSystem :=
  { fs with root := Entry.put e place fs.root }

/-- Makes one directory in a directory that is there. -/
def makeDirectory (fs : FileSystem) (p : Path) : Except FileError FileSystem :=
  match fs.locateLast p with
  | .error e => .error e
  | .ok (_, none) => .error .alreadyThere
  | .ok (place, some n) =>
    match fs.root.at? (place ++ [n]) with
    | some _ => .error .alreadyThere
    | none => .ok (fs.putAt (place ++ [n]) (.directory []))

/-- Makes one directory unless it is there. -/
def ensureDirectory (fs : FileSystem) (p : Path) : FileSystem × Option FileError :=
  match fs.makeDirectory p with
  | .ok fs' => (fs', none)
  | .error e => (fs, if e ≠ .notFound ∧ fs.isDirectory p then none else some e)

/-- Makes a directory and those above it unless they are there; the names come last first. What was
made before an error stays. -/
def ensureAll (fs : FileSystem) (root : Text) : List Text → FileSystem × Option FileError
  | [] => fs.ensureDirectory ⟨root, []⟩
  | n :: ns =>
    let p : Path := ⟨root, (n :: ns).reverse⟩
    match fs.ensureDirectory p with
    | (_, some .notFound) =>
      match ensureAll fs root ns with
      | (fs', none) => fs'.ensureDirectory p
      | r => r
    | r => r

/-- Makes the directory of a path and those above it. -/
def ensureDirectories (fs : FileSystem) (p : Path) : FileSystem × Option FileError :=
  fs.ensureAll p.root p.parts.reverse

/-- Opens a file for writing, which empties it, and gives the place of its content. -/
def openEmpty (fs : FileSystem) (p : Path) : Except FileError (FileSystem × List Text) :=
  match fs.locateLast p with
  | .error e => .error e
  | .ok (_, none) => .error .isADirectory
  | .ok (place, some n) =>
    match fs.root.at? (place ++ [n]) with
    | some (.directory _) => .error .isADirectory
    | _ => .ok (fs.putAt (place ++ [n]) (.file []), place ++ [n])

end FileSystem

end Stencil
