import Stencil.Text.Quoted

namespace Stencil

namespace JsonString

/-- The UTF-16 units of a code point. A lone surrogate is its own unit. -/
def units (c : CodePoint) : List Nat :=
  if c.val < 0x10000 then [c.val]
  else [0xD800 + (c.val - 0x10000) / 0x400, 0xDC00 + (c.val - 0x10000) % 0x400]

def escapeUnit (n : Nat) : Text := [Text.backslash, CodePoint.ofChar 'u'] ++ Text.hex 4 n

/-- The quote, the backslash and the control characters, the delete character among them, are
escaped, and every code point above ASCII is written as one or two escapes of four hexadecimal
digits. -/
def encodeChar (c : CodePoint) : Text :=
  if c = Text.doubleQuote ∨ c = Text.backslash then [Text.backslash, c]
  else if c = '\n' then [Text.backslash, 'n']
  else if c = '\r' then [Text.backslash, 'r']
  else if c = '\t' then [Text.backslash, 't']
  else if c.val = 0x08 then [Text.backslash, 'b']
  else if c.val = 0x0C then [Text.backslash, 'f']
  else if 0x20 ≤ c.val ∧ c.val < 0x7F then [c]
  else (units c).flatMap escapeUnit

def encode (t : Text) : Text :=
  Text.doubleQuote :: t.flatMap encodeChar ++ [Text.doubleQuote]

end JsonString

end Stencil
