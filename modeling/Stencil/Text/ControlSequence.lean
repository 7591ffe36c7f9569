import Stencil.Text.Basic

namespace Stencil

namespace Text

/-- A sign of a parameter: a digit, or one of `:;<=>?`. -/
def isParameter (c : CodePoint) : Bool := 0x30 ≤ c.val && c.val ≤ 0x3F

/-- A sign between the parameters and the end, a space or one of `!"#$%&'()*+,-./`. -/
def isIntermediate (c : CodePoint) : Bool := 0x20 ≤ c.val && c.val ≤ 0x2F

/-- A sign that ends a sequence. -/
def isFinal (c : CodePoint) : Bool := 0x40 ≤ c.val && c.val ≤ 0x7E

/-- The length of the control sequence that a text starts with; zero if there is none. A sequence
starts with an escape and an opening bracket. What goes to no terminal is written without them, and
one that does not end is text. -/
def controlLength : Text → Nat
  | e :: b :: r =>
    if e.val = 0x1B ∧ b = '[' then
      let parameters := r.takeWhile isParameter
      let between := (r.drop parameters.length).takeWhile isIntermediate
      let length := parameters.length + between.length
      if (r.drop length).head?.any isFinal then length + 3 else 0
    else 0
  | _ => 0

/-- A text without its control sequences, after `skip` code points of one. -/
def dropControlsFrom : (skip : Nat) → Text → Text
  | _, [] => []
  | skip + 1, _ :: r => dropControlsFrom skip r
  | 0, c :: r =>
    match controlLength (c :: r) with
    | 0 => c :: dropControlsFrom 0 r
    | n + 1 => dropControlsFrom n r

/-- A text without its control sequences. -/
def dropControls (t : Text) : Text := dropControlsFrom 0 t

end Text

end Stencil
