import Stencil.Number.Basic
import Stencil.Text.Quoted

namespace Stencil

/-- How a value is shown in a message: words and numbers as they are, texts between quotes,
collections between brackets, and other kinds of values by a name with arguments. A value may have a
plain form of its own, which stands for it when it is shown alone; among the items of a collection
it has its notation. -/
inductive Notation where
  /-- A word or a number that is written as it is. -/
  | word (t : Text)
  | number (n : Number)
  | text (t : Text)
  /-- A value that is shown alone by the first notation, and inside others by the second one. -/
  | titled (plain inner : Notation)
  | list (items : List Notation)
  | tuple (items : List Notation)
  | set (items : List Notation)
  | mapping (entries : List (Notation × Notation))
  /-- A name with arguments. -/
  | call (name : Text) (arguments : List Notation)
  /-- A name with arguments that have names. -/
  | record (name : Text) (fields : List (Text × Notation))

namespace Notation

instance : Inhabited Notation := ⟨word []⟩

/-- Items between two brackets, or nothing if one of them has no notation. -/
def between (opening closing : String) (items : Option (List Text)) : Option Text :=
  items.map fun ts => Text.of opening ++ Text.joinWith (Text.of ", ") ts ++ Text.of closing

mutual

/-- The notation inside others. A tuple of one item keeps its comma, and an empty set is a call. -/
def inner? : Notation → Option Text
  | word t => some t
  | number n => n.text?
  | text t => some t.quoted
  | titled _ n => n.inner?
  | list items => between "[" "]" (itemTexts? items)
  | tuple [n] => n.inner?.map fun t => Text.of "(" ++ t ++ Text.of ",)"
  | tuple items => between "(" ")" (itemTexts? items)
  | set [] => some (Text.of "set()")
  | set items => between "\x7b" "\x7d" (itemTexts? items)
  | mapping entries => between "\x7b" "\x7d" (entryTexts? entries)
  | call name arguments => (between "(" ")" (itemTexts? arguments)).map (name ++ ·)
  | record name fields => (between "(" ")" (fieldTexts? fields)).map (name ++ ·)

def itemTexts? : List Notation → Option (List Text)
  | [] => some []
  | n :: ns => do
    let t ← n.inner?
    let ts ← itemTexts? ns
    return t :: ts

def entryTexts? : List (Notation × Notation) → Option (List Text)
  | [] => some []
  | (k, n) :: es => do
    let key ← k.inner?
    let t ← n.inner?
    let ts ← entryTexts? es
    return (key ++ Text.of ": " ++ t) :: ts

def fieldTexts? : List (Text × Notation) → Option (List Text)
  | [] => some []
  | (name, n) :: fs => do
    let t ← n.inner?
    let ts ← fieldTexts? fs
    return (name ++ Text.of "=" ++ t) :: ts

end

/-- The plain form of a value that is shown alone: a text is not quoted. -/
def plain? : Notation → Option Text
  | text t => some t
  | titled p _ => p.plain?
  | n => n.inner?

/-- A boolean. -/
def ofBool (b : Bool) : Notation := word (Text.of (if b then "True" else "False"))

/-- The word for nothing. -/
def nothing : Notation := word (Text.of "None")

/-- A whole number. -/
def ofInt (n : Int) : Notation := number (.int n)

/-- A number. A decimal or a fraction inside other notation is a call that makes it. -/
def ofNumber : Number → Notation
  | .decimal d => titled (number (.decimal d)) (call (Text.of "Decimal") [text d.toText])
  | .fraction q =>
    titled (number (.fraction q))
      (call (Text.of "Fraction") [ofInt q.numerator, ofInt q.denominator])
  | n => number n

/-- The notation in ASCII: every other code point is escaped by its number. -/
def ascii? (n : Notation) : Option Text := n.inner?.map fun t => t.flatMap Text.escapeAbove

end Notation

end Stencil
