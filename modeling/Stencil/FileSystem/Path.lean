import Stencil.Text.Basic

namespace Stencil

/-- A path as it is kept and shown: its root, and the names on the way. -/
structure Path where
  /-- Nothing for a relative path. -/
  root : Text
  parts : List Text
deriving DecidableEq

namespace Path

def separator : CodePoint := CodePoint.ofChar '/'

def here : Text := Text.of "."

def above : Text := Text.of ".."

/-- The root of a written path. Two leading slashes are a root of their own, more are one. -/
def rootOf (t : Text) : Text :=
  match (t.takeWhile fun c => c == separator).length with
  | 0 => []
  | 2 => [separator, separator]
  | _ => [separator]

/-- Empty names and single dots are dropped when a path is read; double dots stay, because what they
lead to depends on the files. -/
def ofText (t : Text) : Path where
  root := rootOf t
  parts := (Text.splitOn separator t).filter fun p => p ≠ [] ∧ p ≠ here

def toText (p : Path) : Text :=
  if p.root = [] ∧ p.parts = [] then here else p.root ++ Text.joinWith [separator] p.parts

/-- The absolute path of some names. -/
def ofParts (parts : List Text) : Path := ⟨[separator], parts⟩

def parent (p : Path) : Path := { p with parts := p.parts.dropLast }

def isAbsolute (p : Path) : Bool := p.root ≠ []

/-- The names that lead from the root to a path by the names alone, seen from a directory. -/
def resolve (cwd : List Text) (p : Path) : List Text :=
  p.parts.foldl (fun place part => if part = above then place.dropLast else place ++ [part])
    (if p.isAbsolute then [] else cwd)

end Path

end Stencil
