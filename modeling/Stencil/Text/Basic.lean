namespace Stencil

/-- A Unicode code point, surrogates included. -/
structure CodePoint where
  val : Nat
  val_lt : val < 0x110000
deriving DecidableEq

namespace CodePoint

def ofChar (c : Char) : CodePoint where
  val := c.toNat
  val_lt := by
    have h : c.toNat.isValidChar := c.valid
    unfold Nat.isValidChar at h
    omega

instance : Coe Char CodePoint := ⟨ofChar⟩

instance : Inhabited CodePoint := ⟨ofChar ' '⟩

/-- The code point with this number, if there is one. -/
def ofNat? (n : Nat) : Option CodePoint :=
  if h : n < 0x110000 then some ⟨n, h⟩ else none

/-- The replacement character stands for a number that is no code point. -/
def ofNat (n : Nat) : CodePoint := (ofNat? n).getD (ofChar '\uFFFD')

def isSurrogate (c : CodePoint) : Bool := 0xD800 ≤ c.val && c.val ≤ 0xDFFF

def isHighSurrogate (c : CodePoint) : Bool := 0xD800 ≤ c.val && c.val ≤ 0xDBFF

def isLowSurrogate (c : CodePoint) : Bool := 0xDC00 ≤ c.val && c.val ≤ 0xDFFF

/-- The character, unless the code point is a surrogate. -/
def toChar? (c : CodePoint) : Option Char :=
  if h : c.val.isValidChar then some (Char.ofNatAux c.val h) else none

/-- Whether the code point is this character. -/
def is (c : CodePoint) (d : Char) : Bool := c == ofChar d

/-- An ASCII digit, `0` to `9`. -/
def isDigit (c : CodePoint) : Bool := 0x30 ≤ c.val && c.val ≤ 0x39

/-- An ASCII letter. -/
def isLetter (c : CodePoint) : Bool :=
  (0x41 ≤ c.val && c.val ≤ 0x5A) || (0x61 ≤ c.val && c.val ≤ 0x7A)

/-- The value of an ASCII digit in any base up to sixteen. -/
def hexValue? (c : CodePoint) : Option Nat :=
  if 0x30 ≤ c.val ∧ c.val ≤ 0x39 then some (c.val - 0x30)
  else if 0x61 ≤ c.val ∧ c.val ≤ 0x66 then some (c.val - 0x57)
  else if 0x41 ≤ c.val ∧ c.val ≤ 0x46 then some (c.val - 0x37)
  else none

/-- The lower-case form of an ASCII letter; every other code point is its own. -/
def toLower (c : CodePoint) : CodePoint :=
  if h : 0x41 ≤ c.val ∧ c.val ≤ 0x5A then ⟨c.val + 0x20, by omega⟩ else c

/-- Bytes of the UTF-8 form; a surrogate counts as its three-byte pattern. -/
def utf8Size (c : CodePoint) : Nat :=
  if c.val < 0x80 then 1 else if c.val < 0x800 then 2 else if c.val < 0x10000 then 3 else 4

theorem ext_val {a b : CodePoint} (h : a.val = b.val) : a = b := by
  cases a
  cases b
  cases h
  rfl

end CodePoint

/-- A sequence of code points. Lone surrogates are admitted, because escapes in data files can
produce them. Every length and offset counts code points. -/
abbrev Text := List CodePoint

namespace Text

/-- The text of a literal. -/
def of (s : String) : Text := s.toList.map CodePoint.ofChar

instance : Coe String Text := ⟨of⟩

def ofChars (cs : List Char) : Text := cs.map CodePoint.ofChar

/-- The string with the same characters, unless a surrogate occurs. -/
def toString? (t : Text) : Option String := (t.mapM CodePoint.toChar?).map String.ofList

/-- Decimal digits of a natural number, without leading zeros. -/
def ofNat (n : Nat) : Text := ofChars (Nat.toDigits 10 n)

def ofInt (n : Int) : Text :=
  if n < 0 then CodePoint.ofChar '-' :: ofNat n.natAbs else ofNat n.natAbs

def hasSurrogate (t : Text) : Bool := t.any CodePoint.isSurrogate

def utf8Size (t : Text) : Nat := t.foldr (fun c n => c.utf8Size + n) 0

@[simp] theorem utf8Size_nil : utf8Size [] = 0 := rfl

@[simp] theorem utf8Size_cons (c : CodePoint) (t : Text) :
    utf8Size (c :: t) = c.utf8Size + utf8Size t := by simp [utf8Size]

@[simp] theorem utf8Size_append (s t : Text) :
    utf8Size (s ++ t) = utf8Size s + utf8Size t := by
  induction s with
  | nil => simp
  | cons c r ih => simp [ih, Nat.add_assoc]

/-- The parts before and after the first occurrence of a separator. -/
def cut? (sep : Text) : Text → Option (Text × Text)
  | [] => if sep = [] then some ([], []) else none
  | c :: r =>
    if sep.isPrefixOf (c :: r) then some ([], (c :: r).drop sep.length)
    else (cut? sep r).map fun p => (c :: p.1, p.2)

theorem cut?_eq_some {sep t a b : Text} (h : cut? sep t = some (a, b)) : t = a ++ sep ++ b := by
  induction t generalizing a b with
  | nil =>
    unfold cut? at h
    split at h
    · simp_all
    · cases h
  | cons c r ih =>
    unfold cut? at h
    split at h
    · rename_i hp
      cases h
      obtain ⟨u, hu⟩ := List.isPrefixOf_iff_prefix.1 hp
      rw [← hu]
      simp
    · obtain ⟨p, hp, hq⟩ := Option.map_eq_some_iff.1 h
      cases hq
      rw [ih hp]
      simp

/-- The pieces between the occurrences of one separating code point. -/
def splitOn (sep : CodePoint) : Text → List Text
  | [] => [[]]
  | c :: r =>
    if c = sep then [] :: splitOn sep r
    else match splitOn sep r with
      | [] => [[c]]
      | p :: ps => (c :: p) :: ps

def joinWith (sep : Text) : List Text → Text
  | [] => []
  | [t] => t
  | t :: ts => t ++ sep ++ joinWith sep ts

/-- What holds of a separator and of some texts holds of them joined. -/
theorem forall_mem_joinWith {p : CodePoint → Prop} {sep : Text} (hsep : ∀ c ∈ sep, p c)
    {ts : List Text} (hts : ∀ t ∈ ts, ∀ c ∈ t, p c) : ∀ c ∈ joinWith sep ts, p c := by
  fun_induction joinWith sep ts with
  | case1 => simp
  | case2 t => exact hts t (List.mem_singleton_self t)
  | case3 t ts _ ih =>
    obtain ⟨ht, hts⟩ := List.forall_mem_cons.1 hts
    simp only [List.forall_mem_append]
    exact ⟨⟨ht, hsep⟩, ih hts⟩

/-- Lexicographic order by code point number. -/
def le : Text → Text → Bool
  | [], _ => true
  | _ :: _, [] => false
  | a :: s, b :: t => a.val < b.val || (a.val == b.val && le s t)

/-- The number written by a non-empty run of ASCII digits. -/
def toNat? (t : Text) : Option Nat :=
  if t ≠ [] ∧ t.all CodePoint.isDigit then
    some (t.foldl (fun n c => n * 10 + (c.val - 0x30)) 0)
  else none

/-- The number written in a base by a non-empty run of digits. -/
def toNatIn? (base : Nat) (t : Text) : Option Nat :=
  if t = [] then none
  else t.foldlM (fun n c => c.hexValue?.bind fun d => if d < base then some (n * base + d) else none) 0

def replicate (n : Nat) (c : Char) : Text := List.replicate n (CodePoint.ofChar c)

end Text

end Stencil
