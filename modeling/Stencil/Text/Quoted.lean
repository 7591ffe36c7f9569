import Stencil.Text.Printable

namespace Stencil

namespace Text

/-- Lower-case hexadecimal digits, at least `width` of them. -/
def hex (width n : Nat) : Text :=
  let ds := ofChars (Nat.toDigits 16 n)
  replicate (width - ds.length) '0' ++ ds

/-- The apostrophe. -/
def singleQuote : CodePoint := .ofChar '\x27'

def doubleQuote : CodePoint := .ofChar '\x22'

def backslash : CodePoint := .ofChar '\x5c'

/-- The escape of a code point by its number. -/
def escapeNumber (c : CodePoint) : Text :=
  if c.val < 0x100 then [backslash, 'x'] ++ hex 2 c.val
  else if c.val < 0x10000 then [backslash, 'u'] ++ hex 4 c.val
  else [backslash, 'U'] ++ hex 8 c.val

/-- What a quoted text shows for one code point. -/
def quoteChar (quote c : CodePoint) : Text :=
  if c = quote ∨ c = backslash then [backslash, c]
  else if c = '\n' then [backslash, 'n']
  else if c = '\r' then [backslash, 'r']
  else if c = '\t' then [backslash, 't']
  else if c.isPrintable then [c]
  else escapeNumber c

/-- An ASCII code point itself, or the escape of another one. -/
def escapeAbove (c : CodePoint) : Text := if c.val < 0x80 then [c] else escapeNumber c

/-- The text with every surrogate escaped by its number. -/
def escapeSurrogates (t : Text) : Text :=
  t.flatMap fun c => if c.isSurrogate then escapeNumber c else [c]

/-- The text between quotes. The quotes are single ones, or double ones if it holds a single quote
and no double quote. Line breaks and tabs have short escapes, and other unprintable code points are
written by number. -/
def quoted (t : Text) : Text :=
  let q := if t.contains singleQuote && !t.contains doubleQuote then doubleQuote else singleQuote
  q :: t.flatMap (quoteChar q) ++ [q]

end Text

end Stencil
