import Mathlib.Data.List.Chain
import Stencil.Text.JsonReader

namespace Stencil

namespace CodePoint

variable {c : CodePoint}

theorem ofNat_val {n : Nat} (hn : n < 0x110000) : (ofNat n).val = n := by
  simp [ofNat, ofNat?, hn]

theorem ofNat_eq (c : CodePoint) : ofNat c.val = c := ext_val (ofNat_val c.val_lt)

theorem isHighSurrogate_iff : c.isHighSurrogate = true ↔ 0xD800 ≤ c.val ∧ c.val ≤ 0xDBFF := by
  simp [isHighSurrogate]

theorem isLowSurrogate_iff : c.isLowSurrogate = true ↔ 0xDC00 ≤ c.val ∧ c.val ≤ 0xDFFF := by
  simp [isLowSurrogate]

theorem isLowSurrogate_of_isHighSurrogate (hc : c.isHighSurrogate = true) :
    c.isLowSurrogate = false := by
  rw [isHighSurrogate_iff] at hc
  rw [Bool.eq_false_iff, Ne, isLowSurrogate_iff]
  omega

end CodePoint

namespace Text

/-- The text with every high surrogate and the low one directly behind it made one code point. -/
def paired : Text → Text
  | h :: l :: t =>
    if h.isHighSurrogate && l.isLowSurrogate then CodePoint.pair h l :: paired t
    else h :: paired (l :: t)
  | t => t

/-- No high surrogate is directly followed by a low one. -/
def Unpaired (t : Text) : Prop :=
  t.IsChain fun h l => (h.isHighSurrogate && l.isLowSurrogate) = false

instance (t : Text) : Decidable (Unpaired t) := by
  unfold Unpaired
  infer_instance

/-- A text without surrogate pairs is its own reading. -/
theorem paired_of_unpaired {t : Text} (hunpaired : t.Unpaired) : t.paired = t := by
  induction t with
  | nil => rfl
  | cons h t ih =>
    cases t with
    | nil => rfl
    | cons l t =>
      obtain ⟨hapart, hrest⟩ := List.isChain_cons_cons.1 hunpaired
      rw [paired, hapart, ih hrest]
      rfl

/-- The text is ASCII and has no control characters, so it stays on one line. -/
def AsciiLine (t : Text) : Prop := ∀ c ∈ t, 0x20 ≤ c.val ∧ c.val < 0x7F

instance (t : Text) : Decidable (AsciiLine t) := by
  unfold AsciiLine
  infer_instance

@[simp] theorem asciiLine_nil : AsciiLine [] := by simp [AsciiLine]

@[simp] theorem asciiLine_cons_iff {c : CodePoint} {t : Text} :
    AsciiLine (c :: t) ↔ (0x20 ≤ c.val ∧ c.val < 0x7F) ∧ AsciiLine t := List.forall_mem_cons

@[simp] theorem asciiLine_append_iff {s t : Text} :
    AsciiLine (s ++ t) ↔ AsciiLine s ∧ AsciiLine t := List.forall_mem_append

theorem asciiLine_flatMap {α : Type} {f : α → Text} {l : List α} (hf : ∀ a ∈ l, AsciiLine (f a)) :
    AsciiLine (l.flatMap f) := by
  intro c hc
  obtain ⟨a, ha, hc⟩ := List.mem_flatMap.1 hc
  exact hf a ha c hc

/-- Lines of ASCII are joined to a line of ASCII. -/
theorem asciiLine_joinWith {sep : Text} (hsep : AsciiLine sep) {ts : List Text}
    (hts : ∀ t ∈ ts, AsciiLine t) : AsciiLine (joinWith sep ts) :=
  forall_mem_joinWith hsep hts

/-- A hexadecimal digit. -/
def digit (d : Nat) : CodePoint := CodePoint.ofChar (Nat.digitChar d)

theorem hexValue?_digit {d : Nat} (hd : d < 16) : (digit d).hexValue? = some d := by
  revert d
  decide

theorem ascii_digit {d : Nat} (hd : d < 16) : 0x20 ≤ (digit d).val ∧ (digit d).val < 0x7F := by
  revert d
  decide

theorem hex_of_lt (width : Nat) {n : Nat} (hn : n < 16) :
    hex (width + 1) n = replicate width '0' ++ [digit n] := by
  rw [hex, Nat.toDigits_of_lt_base hn]
  rfl

/-- The last digit stands behind the others. -/
theorem hex_succ (width n : Nat) :
    hex (width + 2) n = hex (width + 1) (n / 16) ++ [digit (n % 16)] := by
  by_cases hn : n < 16
  · rw [hex_of_lt _ hn, Nat.div_eq_of_lt hn, hex_of_lt _ (by decide), Nat.mod_eq_of_lt hn, replicate,
      List.replicate_succ']
    rfl
  · have hdigits : Nat.toDigits 16 n = Nat.toDigits 16 (n / 16) ++ [Nat.digitChar (n % 16)] := by
      rw [Nat.toDigits_eq_if (by decide), if_neg hn]
    rw [hex, hex, hdigits]
    simp [ofChars, digit]

theorem hex_four {n : Nat} (hn : n < 0x10000) :
    hex 4 n = [digit (n / 16 / 16 / 16), digit (n / 16 / 16 % 16), digit (n / 16 % 16),
      digit (n % 16)] := by
  rw [hex_succ, hex_succ, hex_succ, hex_of_lt 0 (by omega)]
  rfl

/-- Four hexadecimal digits are read back as the number they were written for. -/
theorem toNatIn?_hex_four {n : Nat} (hn : n < 0x10000) : toNatIn? 16 (hex 4 n) = some n := by
  have hfirst : n / 16 / 16 / 16 < 16 := by omega
  have hmod (m : Nat) : m % 16 < 16 := Nat.mod_lt m (by decide)
  rw [hex_four hn]
  simp only [toNatIn?, List.cons_ne_nil, if_false, List.foldlM_cons, List.foldlM_nil,
    hexValue?_digit hfirst, hexValue?_digit (hmod _), Option.bind_some, if_pos hfirst,
    if_pos (hmod _), Option.bind_eq_bind, Option.pure_def]
  congr 1
  omega

theorem asciiLine_hex_four {n : Nat} (hn : n < 0x10000) : AsciiLine (hex 4 n) := by
  have hmod (m : Nat) : m % 16 < 16 := Nat.mod_lt m (by decide)
  have hfirst : n / 16 / 16 / 16 < 16 := by omega
  simp [hex_four hn, ascii_digit hfirst, ascii_digit (hmod _)]

theorem AsciiLine.unpaired {t : Text} (hascii : t.AsciiLine) : t.Unpaired := by
  induction t with
  | nil => exact .nil
  | cons h t ih =>
    obtain ⟨hh, ht⟩ := asciiLine_cons_iff.1 hascii
    refine (ih ht).cons fun l _ => ?_
    have hhigh : h.isHighSurrogate = false := by
      rw [Bool.eq_false_iff, Ne, CodePoint.isHighSurrogate_iff]
      omega
    rw [hhigh, Bool.false_and]

end Text

namespace JsonString

/-- Whether a code point is written by itself or by a letter, not by number. -/
def isShown (c : CodePoint) : Bool :=
  (0x20 ≤ c.val && c.val < 0x7F) || [0x08, 0x09, 0x0A, 0x0C, 0x0D].contains c.val

/-- What is read for a code point. -/
def pieces (c : CodePoint) : List Piece :=
  if isShown c then [.plain c] else (units c).map fun n => .unit (CodePoint.ofNat n)

/-- The short escapes are read as the code points they are written for. -/
theorem encodeChar_of_letter : ∀ p ∈ letters, p.1 ≠ '/' →
    letters.lookup p.1 = some p.2 ∧ p.1 ≠ 'u' ∧ (0x20 ≤ p.1.val ∧ p.1.val < 0x7F) ∧
      isShown p.2 = true ∧ encodeChar p.2 = [Text.backslash, p.1] := by
  decide

/-- A code point is written by a letter, by itself, or by its units. -/
theorem encodeChar_cases (c : CodePoint) :
    (∃ d, (d, c) ∈ letters ∧ d ≠ '/') ∨
    (c ≠ Text.doubleQuote ∧ c ≠ Text.backslash ∧ (0x20 ≤ c.val ∧ c.val < 0x7F) ∧
      encodeChar c = [c]) ∨
    (isShown c = false ∧ encodeChar c = (units c).flatMap escapeUnit) := by
  by_cases hletter : ∃ d, (d, c) ∈ letters ∧ d ≠ '/'
  · exact .inl hletter
  · have hother {d e : CodePoint} (hmem : (d, e) ∈ letters) (hd : d ≠ '/') : c ≠ e :=
      fun heq => hletter ⟨d, heq ▸ hmem, hd⟩
    have hquote : c ≠ Text.doubleQuote := hother (d := Text.doubleQuote) (by decide) (by decide)
    have hbackslash : c ≠ Text.backslash := hother (d := Text.backslash) (by decide) (by decide)
    have hn : c ≠ '\n' := hother (d := 'n') (by decide) (by decide)
    have hr : c ≠ '\r' := hother (d := 'r') (by decide) (by decide)
    have ht : c ≠ '\t' := hother (d := 't') (by decide) (by decide)
    have hb : c ≠ CodePoint.ofNat 0x08 := hother (d := 'b') (by decide) (by decide)
    have hf : c ≠ CodePoint.ofNat 0x0C := hother (d := 'f') (by decide) (by decide)
    have hval {d : CodePoint} (hd : c ≠ d) : c.val ≠ d.val := mt CodePoint.ext_val hd
    have h8 : c.val ≠ 0x08 := hval hb
    have hC : c.val ≠ 0x0C := hval hf
    have hself : encodeChar c =
        if 0x20 ≤ c.val ∧ c.val < 0x7F then [c] else (units c).flatMap escapeUnit := by
      rw [encodeChar, if_neg (not_or.2 ⟨hquote, hbackslash⟩), if_neg hn, if_neg hr, if_neg ht,
        if_neg h8, if_neg hC]
    by_cases hrange : 0x20 ≤ c.val ∧ c.val < 0x7F
    · exact .inr (.inl ⟨hquote, hbackslash, hrange, by rw [hself, if_pos hrange]⟩)
    · have h9 : c.val ≠ 0x09 := hval ht
      have hA : c.val ≠ 0x0A := hval hn
      have hD : c.val ≠ 0x0D := hval hr
      refine .inr (.inr ⟨?_, by rw [hself, if_neg hrange]⟩)
      simp [isShown, h8, h9, hA, hC, hD]
      omega

/-- The units of a code point are numbers of sixteen bits. -/
theorem units_lt {c : CodePoint} {n : Nat} (hn : n ∈ units c) : n < 0x10000 := by
  have hc := c.val_lt
  unfold units at hn
  split at hn
  · rwa [List.mem_singleton.1 hn]
  · simp only [List.mem_cons, List.not_mem_nil, or_false] at hn
    omega

section Reading

variable {c d : CodePoint} {rest : Text}

theorem readPieces_of_letter (hletter : letters.lookup d = some c) (hd : d ≠ 'u') :
    readPieces (Text.backslash :: d :: rest) = (Piece.plain c).cons (readPieces rest) := by
  rw [readPieces.eq_def]
  simp only [if_neg (show Text.backslash ≠ Text.doubleQuote by decide), if_true, if_neg hd, hletter,
    Option.bind_some]

/-- An escape by number is read as one unit. -/
theorem readPieces_escapeUnit {n : Nat} (hn : n < 0x10000) :
    readPieces (escapeUnit n ++ rest) = (Piece.unit (CodePoint.ofNat n)).cons (readPieces rest) := by
  have hread := Text.toNatIn?_hex_four hn
  have hpoint : CodePoint.ofNat? n = some (CodePoint.ofNat n) := by
    have hlt : n < 0x110000 := by omega
    simp [CodePoint.ofNat, CodePoint.ofNat?, hlt]
  rw [Text.hex_four hn] at hread
  rw [escapeUnit, Text.hex_four hn]
  simp only [List.cons_append, List.nil_append]
  rw [readPieces, if_neg (by decide), if_pos rfl]
  simp only [if_true, hread, Option.bind_some, hpoint]

theorem readPieces_escapeUnits {ns : List Nat} (hns : ∀ n ∈ ns, n < 0x10000) :
    readPieces (ns.flatMap escapeUnit ++ rest) =
      (ns.map fun n => Piece.unit (CodePoint.ofNat n)).foldr Piece.cons (readPieces rest) := by
  induction ns with
  | nil => rfl
  | cons n ns ih =>
    obtain ⟨hn, hns⟩ := List.forall_mem_cons.1 hns
    rw [List.flatMap_cons, List.append_assoc, readPieces_escapeUnit hn, ih hns]
    rfl

/-- What is written for a code point is read as its pieces: itself, or its units. -/
theorem readPieces_encodeChar (c : CodePoint) :
    readPieces (encodeChar c ++ rest) = (pieces c).foldr Piece.cons (readPieces rest) := by
  rcases encodeChar_cases c with ⟨d, hmem, hd⟩ | ⟨hquote, hbackslash, ⟨hlow, hhigh⟩, hself⟩ |
    ⟨hshown, hunits⟩
  · obtain ⟨hlookup, hu, -, hshown, hletter⟩ := encodeChar_of_letter _ hmem hd
    rw [hletter, pieces, if_pos hshown]
    exact readPieces_of_letter hlookup hu
  · have hshown : isShown c = true := by simp [isShown, hlow, hhigh]
    rw [hself, pieces, if_pos hshown, List.singleton_append, readPieces.eq_def]
    simp only [if_neg hquote, if_neg hbackslash, if_neg (Nat.not_lt.2 hlow)]
    rfl
  · rw [hunits, pieces, hshown]
    exact readPieces_escapeUnits fun n => units_lt

theorem foldr_cons (ps qs : List Piece) :
    ps.foldr Piece.cons (some (qs, rest)) = some (ps ++ qs, rest) := by
  induction ps with
  | nil => rfl
  | cons p ps ih =>
    rw [List.foldr_cons, ih]
    rfl

/-- The text up to the closing quote is read as the pieces of its code points. -/
theorem readPieces_flatMap (t : Text) :
    readPieces (t.flatMap encodeChar ++ Text.doubleQuote :: rest) =
      some (t.flatMap pieces, rest) := by
  induction t with
  | nil => rw [List.flatMap_nil, List.nil_append, readPieces.eq_def]; rfl
  | cons c t ih =>
    rw [List.flatMap_cons, List.append_assoc, readPieces_encodeChar, ih, foldr_cons,
      List.flatMap_cons]

end Reading

section Joining

variable {c : CodePoint}

theorem isShown_of_le (hc : 0x7F ≤ c.val) : isShown c = false := by
  simp [isShown]
  omega

theorem pieces_of_lt (hc : c.val < 0x10000) :
    pieces c = [if isShown c then .plain c else .unit c] := by
  rw [pieces, units, if_pos hc, List.map_singleton, CodePoint.ofNat_eq]
  split <;> rfl

/-- A surrogate is its own unit. -/
theorem pieces_of_surrogate (hlow : 0xD800 ≤ c.val) (hhigh : c.val ≤ 0xDFFF) :
    pieces c = [.unit c] := by
  rw [pieces_of_lt (by omega), isShown_of_le (by omega)]
  rfl

/-- A code point above the others has two units. -/
theorem pieces_of_le (hc : 0x10000 ≤ c.val) :
    ∃ h l, pieces c = [.unit h, .unit l] ∧ h.isHighSurrogate = true ∧ l.isLowSurrogate = true ∧
      CodePoint.pair h l = c := by
  have hmax := c.val_lt
  have hhigh : (CodePoint.ofNat (0xD800 + (c.val - 0x10000) / 0x400)).val =
      0xD800 + (c.val - 0x10000) / 0x400 := CodePoint.ofNat_val (by omega)
  have hlow : (CodePoint.ofNat (0xDC00 + (c.val - 0x10000) % 0x400)).val =
      0xDC00 + (c.val - 0x10000) % 0x400 := CodePoint.ofNat_val (by omega)
  refine ⟨CodePoint.ofNat (0xD800 + (c.val - 0x10000) / 0x400),
    CodePoint.ofNat (0xDC00 + (c.val - 0x10000) % 0x400), ?_, ?_, ?_, ?_⟩
  · rw [pieces, isShown_of_le (by omega), if_neg Bool.false_ne_true, units, if_neg (Nat.not_lt.2 hc)]
    rfl
  · rw [CodePoint.isHighSurrogate_iff, hhigh]
    omega
  · rw [CodePoint.isLowSurrogate_iff, hlow]
    omega
  · apply CodePoint.ext_val
    rw [CodePoint.pair, hhigh, hlow, CodePoint.ofNat_val (by omega)]
    omega

/-- What is read for a text starts with a low unit only if the text does. -/
theorem isLowSurrogate_of_pieces {l : CodePoint} {ps rest : List Piece}
    (hpieces : pieces c ++ ps = .unit l :: rest) (hc : c.isLowSurrogate = false) :
    l.isLowSurrogate = false := by
  by_cases hsmall : c.val < 0x10000
  · rw [pieces_of_lt hsmall] at hpieces
    split at hpieces
    · cases hpieces
    · cases hpieces
      exact hc
  · obtain ⟨high, low, h, hhigh, -, -⟩ := pieces_of_le (Nat.not_lt.1 hsmall)
    rw [h] at hpieces
    cases hpieces
    exact CodePoint.isLowSurrogate_of_isHighSurrogate hhigh

/-- A code point is joined on its own, unless it is a high surrogate in front of a low one. -/
theorem join_pieces {ps : List Piece} (hps : c.isHighSurrogate = true →
    ∀ l rest, ps = .unit l :: rest → l.isLowSurrogate = false) :
    join (pieces c ++ ps) = c :: join ps := by
  by_cases hc : c.val < 0x10000
  · rw [pieces_of_lt hc, List.singleton_append]
    split
    · rw [join]
    · match ps, hps with
      | [], _ => rfl
      | .plain d :: ps, _ => rfl
      | .unit l :: ps, hps =>
        cases hhigh : c.isHighSurrogate with
        | false =>
          rw [join, hhigh]
          rfl
        | true =>
          rw [join, hhigh, hps hhigh l ps rfl]
          rfl
  · obtain ⟨h, l, hpieces, hhigh, hlow, hpair⟩ := pieces_of_le (Nat.not_lt.1 hc)
    rw [hpieces, List.cons_append, List.singleton_append, join, hhigh, hlow, hpair]
    rfl

/-- Joining the pieces of a text puts a high and a low surrogate that stand together into one code
point, and gives the rest back. -/
theorem join_flatMap : (t : Text) → join (t.flatMap pieces) = t.paired
  | [] => rfl
  | [c] => by
    rw [List.flatMap_cons, List.flatMap_nil, join_pieces fun _ l rest hrest => by cases hrest]
    rfl
  | h :: l :: t => by
    rw [Text.paired]
    split
    · rename_i hpair
      obtain ⟨hhigh, hlow⟩ := Bool.and_eq_true_iff.1 hpair
      have hh := CodePoint.isHighSurrogate_iff.1 hhigh
      have hl := CodePoint.isLowSurrogate_iff.1 hlow
      rw [List.flatMap_cons, List.flatMap_cons, pieces_of_surrogate hh.1 (by omega),
        pieces_of_surrogate (by omega) hl.2]
      simp only [List.singleton_append, join, hpair, if_true, join_flatMap t]
    · rename_i hpair
      rw [List.flatMap_cons, join_pieces fun hhigh u rest hrest => ?_, join_flatMap (l :: t)]
      rw [hhigh, Bool.true_and, Bool.not_eq_true] at hpair
      exact isLowSurrogate_of_pieces hrest hpair

end Joining

/-- A string is read as its text with the surrogate pairs made one code point each. -/
theorem read_encode (t rest : Text) : read (encode t ++ rest) = some (t.paired, rest) := by
  have hencode : encode t ++ rest =
      Text.doubleQuote :: (t.flatMap encodeChar ++ Text.doubleQuote :: rest) := by
    simp [encode]
  rw [hencode, read, if_pos rfl, readPieces_flatMap, Option.map_some, join_flatMap]

theorem asciiLine_encodeChar (c : CodePoint) : (encodeChar c).AsciiLine := by
  rcases encodeChar_cases c with ⟨d, hmem, hd⟩ | ⟨-, -, hrange, hself⟩ | ⟨-, hunits⟩
  · obtain ⟨-, -, hletter, -, hencode⟩ := encodeChar_of_letter _ hmem hd
    rw [hencode, Text.asciiLine_cons_iff, Text.asciiLine_cons_iff]
    exact ⟨by decide, hletter, Text.asciiLine_nil⟩
  · rw [hself, Text.asciiLine_cons_iff]
    exact ⟨hrange, Text.asciiLine_nil⟩
  · rw [hunits]
    refine Text.asciiLine_flatMap fun n hn => ?_
    rw [escapeUnit, Text.asciiLine_append_iff]
    exact ⟨by decide, Text.asciiLine_hex_four (units_lt hn)⟩

/-- A written string is one line of ASCII, whatever it is the string of. -/
theorem asciiLine_encode (t : Text) : (encode t).AsciiLine := by
  rw [encode, Text.asciiLine_append_iff, Text.asciiLine_cons_iff]
  exact ⟨⟨by decide, Text.asciiLine_flatMap fun c _ => asciiLine_encodeChar c⟩, by decide⟩

end JsonString

end Stencil
