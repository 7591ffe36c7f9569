import Stencil.Data.Basic

namespace Stencil

namespace Log

/-- Why a message cannot be filled with its arguments. -/
inductive MessageError where
  | notEnough
  | leftOver
  | incompleteSlot
  | incompleteKey
  | noMapping
  | missingKey (name : Text)
  | badLetter (c : CodePoint) (index : Nat)
  /-- A width or a precision that is taken from the arguments and is no whole number. -/
  | unsuitableStar
  | widthTooBig
  | precisionTooBig
  | starTooBig (width : Bool)
  /-- An argument that is no whole number. -/
  | notWhole (letter : CodePoint) (type : Text)
  /-- An argument that is no number. -/
  | notReal (letter : CodePoint) (type : Text)
  | notFloat (type : Text)
  | tooGreatForFloat
  | notCharacter
  | noSuchCharacter
  | noWholePart (isNan : Bool)
  | tooManyDigits
deriving DecidableEq

namespace MessageError

def message : MessageError → Text
  | notEnough => Text.of "not enough arguments for format string"
  | leftOver => Text.of "not all arguments converted during string formatting"
  | incompleteSlot => Text.of "incomplete format"
  | incompleteKey => Text.of "incomplete format key"
  | noMapping => Text.of "format requires a mapping"
  | missingKey name => name.quoted
  | badLetter c index =>
    let shown := if 31 ≤ c.val ∧ c.val ≤ 126 then [c] else Text.of "?"
    Text.of "unsupported format character '" ++ shown ++ Text.of "' (0x" ++ Text.hex 1 c.val ++
      Text.of ") at index " ++ Text.ofNat index
  | unsuitableStar => Text.of "* wants int"
  | widthTooBig => Text.of "width too big"
  | precisionTooBig => Text.of "precision too big"
  | starTooBig width =>
    Text.of "Python int too large to convert to C " ++ Text.of (if width then "ssize_t" else "int")
  | notWhole letter type =>
    Text.of "%" ++ [letter] ++ Text.of " format: an integer is required, not " ++ type
  | notReal letter type =>
    Text.of "%" ++ [letter] ++ Text.of " format: a real number is required, not " ++ type
  | notFloat type => Text.of "must be real number, not " ++ type
  | tooGreatForFloat => Text.of "int too large to convert to float"
  | notCharacter => Text.of "%c requires int or char"
  | noSuchCharacter => Text.of "%c arg not in range(0x110000)"
  | noWholePart isNan =>
    Text.of (if isNan then "cannot convert float NaN to integer"
      else "cannot convert float infinity to integer")
  | tooManyDigits => Number.digitMessage none

end MessageError

/-- How an argument is laid out. -/
structure Slot where
  left : Bool := false
  zeros : Bool := false
  plus : Bool := false
  blank : Bool := false
  /-- Shows the base of a whole number, and the point of a fraction. -/
  full : Bool := false
  width : Nat := 0
  precision : Option Nat := none
  letter : CodePoint
deriving DecidableEq

/-- The name of the type of an argument. -/
def typeName : Data → Text
  | .scalar .null => Text.of "NoneType"
  | .scalar (.bool _) => Text.of "bool"
  | .scalar (.int _) => Text.of "int"
  | .scalar (.float _) => Text.of "float"
  | .scalar (.text _) => Text.of "str"
  | .scalar (.foreign f) => f.type
  | .list _ => Text.of "list"
  | .mapping _ => Text.of "dict"

/-- The whole number that an argument is, a boolean included. -/
def wholeOf? : Data → Option Int
  | .scalar (.int n) => some n
  | .scalar (.bool b) => some (if b then 1 else 0)
  | _ => none

namespace Slot

/-- Whether the letter is one of some letters. -/
def hasLetter (s : Slot) (letters : String) : Bool := (Text.of letters).contains s.letter

/-- Text in a field of the width, to the left or to the right of it. -/
def pad (s : Slot) (t : Text) : Text :=
  let gap := Text.replicate (s.width - t.length) ' '
  if s.left then t ++ gap else gap ++ t

/-- A text cut to the precision. -/
def text (s : Slot) (t : Text) : Text :=
  s.pad (match s.precision with | some n => t.take n | none => t)

/-- A number in the field: zeros, if they fill it, stand behind the sign and what leads the
digits. -/
def number (s : Slot) (negative : Bool) (lead digits : Text) : Text :=
  let sign : Text :=
    if negative then Text.of "-" else if s.plus then Text.of "+"
    else if s.blank then Text.of " " else []
  if s.zeros && !s.left then
    sign ++ lead ++ Text.replicate (s.width - (sign ++ lead ++ digits).length) '0' ++ digits
  else s.pad (sign ++ lead ++ digits)

/-- Letters in upper case. -/
def upper (t : Text) : Text :=
  t.map fun c => if h : 0x61 ≤ c.val ∧ c.val ≤ 0x7A then ⟨c.val - 0x20, by omega⟩ else c

/-- What shows the base of a whole number. -/
def baseMark (s : Slot) : Text :=
  if s.full && s.hasLetter "oxX" then [CodePoint.ofChar '0', s.letter] else []

/-- A whole number in the base that the letter names, with at least as many digits as the precision
says. -/
def whole (s : Slot) (n : Int) : Text :=
  let base := if s.hasLetter "xX" then 16 else if s.hasLetter "o" then 8 else 10
  let ds := Text.ofChars (Nat.toDigits base n.natAbs)
  let ds := Text.replicate (s.precision.getD 0 - ds.length) '0' ++ ds
  s.number (n < 0) s.baseMark (if s.hasLetter "X" then upper ds else ds)

/-- The style of a fraction that the letter names. -/
def style (s : Slot) : PlaceStyle :=
  if s.hasLetter "fF" then .fixed else if s.hasLetter "eE" then .scientific else .general

/-- A fraction, with six places unless the precision says another count. -/
def fraction (s : Slot) (x : Binary64) : Text :=
  let t := x.toPlaces s.style s.full (s.precision.getD 6)
  let t := if s.hasLetter "EFG" then upper t else t
  match t with
  | c :: r => if c = '-' then s.number true [] r else s.number false [] (c :: r)
  | [] => []

/-- A single code point, given by itself or by its number. -/
def character? : Data → Except MessageError CodePoint
  | .scalar (.text [c]) => .ok c
  | d =>
    match wholeOf? d with
    | none => .error .notCharacter
    | some n =>
      match if n < 0 then none else CodePoint.ofNat? n.toNat with
      | some c => .ok c
      | none => .error .noSuchCharacter

/-- The whole number that stands for an argument; a fraction loses its places if it may. -/
def wholeFor (s : Slot) (d : Data) : Except MessageError Int :=
  match wholeOf? d with
  | some n => .ok n
  | none =>
    if s.hasLetter "oxX" then .error (.notWhole s.letter (typeName d))
    else
      match d with
      | .scalar (.float (.finite negative m e)) =>
        let (n, q) := Binary64.Shortest.power 2 e
        .ok (if negative then -((m * n / q : Nat) : Int) else (m * n / q : Nat))
      | .scalar (.float x) => .error (.noWholePart (x == .nan))
      | _ => .error (.notReal s.letter (typeName d))

/-- The binary number that stands for an argument. -/
def floatFor : Data → Except MessageError Binary64
  | .scalar (.float x) => .ok x
  | d =>
    match wholeOf? d with
    | none => .error (.notFloat (typeName d))
    | some n =>
      match Binary64.ofInt? n with
      | some x => .ok x
      | none => .error .tooGreatForFloat

/-- A text, unless a number in it is too long. -/
def shown (t : Option Text) : Except MessageError Text :=
  match t with
  | some t => .ok t
  | none => .error .tooManyDigits

/-- An argument as the letter asks for; the letter stands at an index of the message. -/
def write (s : Slot) (index : Nat) (d : Data) : Except MessageError Text :=
  if s.hasLetter "s" then (shown d.toNotation.plain?).map s.text
  else if s.hasLetter "r" then (shown d.toNotation.inner?).map s.text
  else if s.hasLetter "a" then (shown d.toNotation.ascii?).map s.text
  else if s.hasLetter "diuoxX" then (s.wholeFor d).map s.whole
  else if s.hasLetter "eEfFgG" then (floatFor d).map s.fraction
  else if s.hasLetter "c" then (character? d).map fun c => s.pad [c]
  else .error (.badLetter s.letter index)

end Slot

end Log

end Stencil
