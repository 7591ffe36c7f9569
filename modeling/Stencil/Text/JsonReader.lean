import Stencil.Text.JsonString

namespace Stencil

/-- The code point whose UTF-16 units are two surrogates. -/
def CodePoint.pair (high low : CodePoint) : CodePoint :=
  ofNat (0x10000 + (high.val - 0xD800) * 0x400 + (low.val - 0xDC00))

namespace JsonString

/-- What a string holds for a code point. -/
inductive Piece where
  /-- The code point itself, or a letter for it behind a backslash. -/
  | plain (c : CodePoint)
  /-- The number of a UTF-16 unit. -/
  | unit (c : CodePoint)
deriving DecidableEq

/-- What the letters behind a backslash stand for. -/
def letters : List (CodePoint × CodePoint) :=
  [(Text.doubleQuote, Text.doubleQuote), (Text.backslash, Text.backslash), ('/', '/'),
    ('b', CodePoint.ofNat 0x08), ('f', CodePoint.ofNat 0x0C), ('n', '\n'), ('r', '\r'), ('t', '\t')]

/-- A piece in front of what else is read. -/
def Piece.cons (p : Piece) (read : Option (List Piece × Text)) : Option (List Piece × Text) :=
  read.map fun r => (p :: r.1, r.2)

/-- Reads a string up to the quote that ends it. -/
def readPieces : Text → Option (List Piece × Text)
  | [] => none
  | c :: rest =>
    if c = Text.doubleQuote then some ([], rest)
    else if c = Text.backslash then
      match rest with
      | [] => none
      | d :: rest =>
        if d = 'u' then
          match rest with
          | d₁ :: d₂ :: d₃ :: d₄ :: rest =>
            ((Text.toNatIn? 16 [d₁, d₂, d₃, d₄]).bind CodePoint.ofNat?).bind fun c =>
              (Piece.unit c).cons (readPieces rest)
          | _ => none
        else (letters.lookup d).bind fun c => (Piece.plain c).cons (readPieces rest)
    else if c.val < 0x20 then none
    else (Piece.plain c).cons (readPieces rest)

/-- The text that a string stands for. A high surrogate that is directly followed by a low one makes
one code point with it, and any other unit is kept. -/
def join : List Piece → Text
  | [] => []
  | .plain c :: ps => c :: join ps
  | .unit c :: .unit d :: ps =>
    if c.isHighSurrogate && d.isLowSurrogate then CodePoint.pair c d :: join ps
    else c :: join (.unit d :: ps)
  | .unit c :: ps => c :: join ps

/-- Reads a string that a text starts with. -/
def read : Text → Option (Text × Text)
  | [] => none
  | c :: rest =>
    if c = Text.doubleQuote then (readPieces rest).map fun r => (join r.1, r.2) else none

theorem length_readPieces {t rest : Text} {ps : List Piece} (hread : readPieces t = some (ps, rest)) :
    rest.length < t.length := by
  have hcons {p : Piece} {qs : List Piece} {t : Text}
      (ih : ∀ {ps}, readPieces t = some (ps, rest) → rest.length < t.length)
      (hread : p.cons (readPieces t) = some (qs, rest)) : rest.length < t.length := by
    obtain ⟨⟨ps, rest'⟩, hrest, heq⟩ := Option.map_eq_some_iff.1 hread
    cases heq
    exact ih hrest
  fun_induction readPieces t generalizing ps with
  | case1 => cases hread
  | case2 =>
    cases hread
    exact Nat.lt_succ_self _
  | case3 => cases hread
  | case4 d₁ d₂ d₃ d₄ t _ ih =>
    obtain ⟨c, -, hrest⟩ := Option.bind_eq_some_iff.1 hread
    exact Nat.lt_of_lt_of_le (hcons ih hrest) (by simp only [List.length_cons]; omega)
  | case5 => cases hread
  | case6 d t _ _ ih =>
    obtain ⟨c, -, hrest⟩ := Option.bind_eq_some_iff.1 hread
    exact Nat.lt_of_lt_of_le (hcons ih hrest) (by simp only [List.length_cons]; omega)
  | case7 => cases hread
  | case8 c t _ _ _ ih => exact Nat.lt_succ_of_lt (hcons ih hread)

theorem length_read {t s rest : Text} (hread : read t = some (s, rest)) :
    rest.length < t.length := by
  cases t with
  | nil => cases hread
  | cons c t =>
    obtain ⟨-, hread⟩ := Option.ite_none_right_eq_some.1 hread
    obtain ⟨⟨ps, rest'⟩, hpieces, heq⟩ := Option.map_eq_some_iff.1 hread
    cases heq
    exact Nat.lt_succ_of_lt (length_readPieces hpieces)

end JsonString

namespace Json

def isBlank (c : CodePoint) : Bool := c.is ' ' || c.is '\t' || c.is '\n' || c.is '\r'

/-- Reads a sign, with blanks on both sides of it. -/
def sign? (sign : Char) (t : Text) : Option Text :=
  match t.dropWhile isBlank with
  | [] => none
  | c :: rest => if c.is sign then some (rest.dropWhile isBlank) else none

theorem length_sign? {sign : Char} {t rest : Text} (hsign : sign? sign t = some rest) :
    rest.length < t.length := by
  unfold sign? at hsign
  split at hsign
  · cases hsign
  · rename_i c more ht
    obtain ⟨-, hrest⟩ := Option.ite_none_right_eq_some.1 hsign
    cases hrest
    have hmore : (c :: more).length ≤ t.length := ht ▸ (List.dropWhile_sublist _).length_le
    have hdropped := (List.dropWhile_sublist (l := more) isBlank).length_le
    rw [List.length_cons] at hmore
    omega

/-- Reads a member. -/
def readMember (t : Text) : Option ((Text × Text) × Text) := do
  let (key, t) ← JsonString.read t
  let t ← sign? ':' t
  let (value, t) ← JsonString.read t
  return ((key, value), t)

theorem length_readMember {t rest : Text} {m : Text × Text}
    (hread : readMember t = some (m, rest)) : rest.length < t.length := by
  obtain ⟨⟨key, t₁⟩, hkey, hread⟩ := Option.bind_eq_some_iff.1 hread
  obtain ⟨t₂, hsign, hread⟩ := Option.bind_eq_some_iff.1 hread
  obtain ⟨⟨value, t₃⟩, hvalue, hread⟩ := Option.bind_eq_some_iff.1 hread
  cases hread
  exact Nat.lt_trans (JsonString.length_read hvalue)
    (Nat.lt_trans (length_sign? hsign) (JsonString.length_read hkey))

/-- Reads members with commas between them, up to the brace that ends them. -/
def readMembers (t : Text) : Option (List (Text × Text) × Text) :=
  match _hmember : readMember t with
  | none => none
  | some (m, rest) =>
    match _hcomma : sign? ',' rest with
    | some more => (readMembers more).map fun r => (m :: r.1, r.2)
    | none => (sign? '\x7d' rest).map fun rest => ([m], rest)
termination_by t.length
decreasing_by exact Nat.lt_trans (length_sign? _hcomma) (length_readMember _hmember)

/-- Reads an object, which is all that is there. Its members are strings. -/
def readObject (t : Text) : Option (List (Text × Text)) := do
  let t ← sign? '\x7b' t
  match sign? '\x7d' t with
  | some rest => if rest = [] then some [] else none
  | none =>
    let (members, rest) ← readMembers t
    if rest = [] then some members else none

/-- The value of a key. A later member with the same key replaces an earlier one. -/
def value? (members : List (Text × Text)) (key : Text) : Option Text := members.reverse.lookup key

end Json

end Stencil
