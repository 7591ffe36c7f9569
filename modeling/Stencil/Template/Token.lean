import Stencil.Template.Tag

namespace Stencil

inductive Token where
  /-- A code point of literal text. -/
  | char (c : CodePoint)
  | tag (t : Tag) (offset : Nat)
  | unclosed (offset : Nat)
deriving DecidableEq

namespace Token

/-- Reads the source at an offset, of which the next `skip` code points belong to a tag that is
already read. Opening braces whose closing ones are missing end the reading, because nothing after
them can be a tag. -/
def scanFrom : (skip offset : Nat) → Text → List Token
  | _, _, [] => []
  | skip + 1, offset, _ :: r => scanFrom skip (offset + 1) r
  | 0, offset, c :: r =>
    match Tag.read (c :: r) with
    | .none => .char c :: scanFrom 0 (offset + 1) r
    | .unclosed => [.unclosed offset]
    | .tag t width => .tag t offset :: scanFrom (width - 1) (offset + 1) r

/-- The tokens of a source. -/
def scan (source : Text) : List Token := scanFrom 0 0 source

/-- The literal code point of a token that is one. -/
def char? : Token → Option CodePoint
  | char c => some c
  | _ => none

/-- The literal text among some tokens. -/
def literal (ts : List Token) : Text := ts.filterMap char?

end Token

end Stencil
