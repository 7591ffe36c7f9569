import Stencil.Text.Blank

namespace Stencil

/-- What a tag is for. -/
inductive Tag.Kind where
  /-- Shows a value, with or without entities. -/
  | print (escaped : Bool)
  /-- Opens a section, or an inverse one. -/
  | opening (inverted : Bool)
  | closing
  | comment
deriving DecidableEq

/-- What stands between double braces. The name is without outer blanks. -/
structure Tag where
  kind : Tag.Kind
  name : Text
deriving DecidableEq

namespace Tag

def openBrace : CodePoint := '{'

def closeBrace : CodePoint := '}'

/-- What ends a tag of three braces. -/
def tripleClose : Text := [closeBrace, closeBrace, closeBrace]

/-- What ends every other tag. -/
def doubleClose : Text := [closeBrace, closeBrace]

/-- The kind that a sign after the opening braces stands for. -/
def Kind.ofSign? (c : CodePoint) : Option Kind :=
  if c = '#' then some (.opening false)
  else if c = '^' then some (.opening true)
  else if c = '/' then some .closing
  else if c = '!' then some .comment
  else if c = '&' then some (.print false)
  else none

/-- What stands at a position of a source. -/
inductive Reading where
  /-- No tag starts here. -/
  | none
  /-- Two opening braces without closing ones after them. -/
  | unclosed
  /-- A tag of some number of code points. -/
  | tag (t : Tag) (width : Nat)
deriving DecidableEq

/-- A tag of three braces, by what follows them. Three braces open one if three closing braces
follow anywhere later. -/
def readTriple? (r : Text) : Option Reading :=
  (Text.cut? tripleClose r).map fun p => .tag ⟨.print false, p.1.trim⟩ (p.1.length + 6)

/-- A tag of two braces, by what follows its sign; `extra` counts the sign. -/
def readBody (kind : Kind) (extra : Nat) (r : Text) : Reading :=
  match Text.cut? doubleClose r with
  | some (inner, _) => .tag ⟨kind, inner.trim⟩ (inner.length + extra + 4)
  | none => .unclosed

/-- A tag of two braces, by what follows them. A sign may follow the two opening braces, and the tag
ends at the next two closing ones. -/
def readDouble (r : Text) : Reading :=
  match r with
  | [] => .unclosed
  | c :: r' =>
    match Kind.ofSign? c with
    | some kind => readBody kind 1 r'
    | none => readBody (.print true) 0 r

/-- What stands after two opening braces. -/
def readAfterBraces (r : Text) : Reading :=
  match r with
  | c :: r' => if c = openBrace then (readTriple? r').getD (readDouble r) else readDouble r
  | [] => .unclosed

/-- What stands at the start of a text. -/
def read : Text → Reading
  | a :: b :: r => if a = openBrace ∧ b = openBrace then readAfterBraces r else .none
  | _ => .none

end Tag

end Stencil
