import Stencil.Text.Basic

namespace Stencil

namespace CodePoint

/-- A code point with the property White_Space. -/
def isWhite (c : CodePoint) : Bool :=
  let n := c.val
  (0x9 ≤ n && n ≤ 0xD) || n == 0x20 || n == 0x85 || n == 0xA0 || n == 0x1680 ||
    (0x2000 ≤ n && n ≤ 0x200A) || n == 0x2028 || n == 0x2029 || n == 0x202F || n == 0x205F ||
    n == 0x3000

/-- White space, or an information separator. -/
def isBlank (c : CodePoint) : Bool := c.isWhite || (0x1C ≤ c.val && c.val ≤ 0x1F)

end CodePoint

namespace Text

def trimLeft (t : Text) : Text := t.dropWhile CodePoint.isBlank

def trimRight (t : Text) : Text := (trimLeft t.reverse).reverse

/-- The text without its outer blanks. -/
def trim (t : Text) : Text := trimRight (trimLeft t)

/-- The text without its outer white space. -/
def trimWhite (t : Text) : Text :=
  ((t.dropWhile CodePoint.isWhite).reverse.dropWhile CodePoint.isWhite).reverse

def isBlank (t : Text) : Bool := t.all CodePoint.isBlank

theorem trimLeft_of_isBlank {t : Text} (h : t.isBlank = true) : trimLeft t = [] := by
  induction t with
  | nil => rfl
  | cons c r ih =>
    simp only [isBlank, List.all_cons, Bool.and_eq_true] at h
    simp only [trimLeft, List.dropWhile_cons, h.1, if_true]
    exact ih h.2

end Text

end Stencil
