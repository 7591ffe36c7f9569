import Stencil.Proofs.Text.Cut
import Stencil.Template.Token

namespace Stencil

namespace Tag

/-- What begins a tag of three braces. -/
def tripleOpen : Text := [openBrace, openBrace, openBrace]

/-- What begins every tag. -/
def doubleOpen : Text := [openBrace, openBrace]

/-- A tag with a sign, and no blanks around its name. -/
def signed (sign : CodePoint) (name : Text) : Text := doubleOpen ++ sign :: (name ++ doubleClose)

/-- A piece of a source, together with the text behind it, is a tag. -/
inductive Written : Tag → (piece rest : Text) → Prop where
  | triple {inner rest : Text} (hend : Text.FirstAfter tripleClose inner) :
      Written ⟨.print false, inner.trim⟩ (tripleOpen ++ inner ++ tripleClose) rest
  | signed {c : CodePoint} {kind : Kind} {inner rest : Text} (hsign : Kind.ofSign? c = some kind)
      (hend : Text.FirstAfter doubleClose inner) :
      Written ⟨kind, inner.trim⟩ (doubleOpen ++ c :: (inner ++ doubleClose)) rest
  | plain {inner rest : Text} (hunsigned : ∀ c ∈ inner.head?, Kind.ofSign? c = none)
      (hnotTriple : ∀ r, inner ++ doubleClose ++ rest = openBrace :: r → ¬ tripleClose <:+: r)
      (hend : Text.FirstAfter doubleClose inner) :
      Written ⟨.print true, inner.trim⟩ (doubleOpen ++ (inner ++ doubleClose)) rest

theorem firstAfter_of_not_mem {name : Text} (hname : closeBrace ∉ name) :
    Text.FirstAfter doubleClose name :=
  .of_pair (fun hin => hname (hin.subset (by simp))) fun hlast =>
    hname (List.mem_of_getLast? hlast)

/-- A sign between the opening braces and a name without closing braces makes a tag of its kind. -/
theorem written_signed {sign : CodePoint} {kind : Kind} (hsign : Kind.ofSign? sign = some kind)
    {name : Text} (hclose : closeBrace ∉ name) (htrim : name.trim = name) (rest : Text) :
    Written ⟨kind, name⟩ (signed sign name) rest := by
  have hwritten : Written ⟨kind, name.trim⟩ (signed sign name) rest :=
    .signed hsign (firstAfter_of_not_mem hclose)
  rwa [htrim] at hwritten

/-- Three braces open no tag of their own if no three closing ones follow. -/
theorem readTriple?_eq_none_iff {r : Text} : readTriple? r = none ↔ ¬ tripleClose <:+: r := by
  rw [readTriple?, Option.map_eq_none_iff, Text.cut?_eq_none_iff]

/-- A tag of three braces ends at the first three closing ones. -/
theorem readTriple?_of_firstAfter {inner : Text} (rest : Text)
    (hend : Text.FirstAfter tripleClose inner) :
    readTriple? (inner ++ tripleClose ++ rest) =
      some (.tag ⟨.print false, inner.trim⟩ (inner.length + 6)) := by
  rw [readTriple?, Text.cut?_eq_some_iff.2 ⟨rfl, hend⟩]
  rfl

/-- Every other tag ends at the first two closing braces. -/
theorem readBody_of_firstAfter {inner : Text} (kind : Kind) (extra : Nat) (rest : Text)
    (hend : Text.FirstAfter doubleClose inner) :
    readBody kind extra (inner ++ doubleClose ++ rest) =
      .tag ⟨kind, inner.trim⟩ (inner.length + extra + 4) := by
  rw [readBody, Text.cut?_eq_some_iff.2 ⟨rfl, hend⟩]

/-- A tag is unclosed only if no closing braces follow anywhere. -/
theorem readBody_eq_unclosed_iff {kind : Kind} {extra : Nat} {r : Text} :
    readBody kind extra r = .unclosed ↔ ¬ doubleClose <:+: r := by
  rw [← Text.cut?_eq_none_iff, readBody]
  cases Text.cut? doubleClose r <;> simp

theorem readDouble_of_unsigned {r : Text} (hr : r ≠ [])
    (hunsigned : ∀ c ∈ r.head?, Kind.ofSign? c = none) : readDouble r = readBody (.print true) 0 r := by
  cases r with
  | nil => exact absurd rfl hr
  | cons c r => simp [readDouble, hunsigned c rfl]

/-- What stands after two opening braces is read as a tag of two braces, unless a
    third one follows and three closing braces later on. -/
theorem readAfterBraces_eq_readDouble {r : Text}
    (hnotTriple : ∀ r', r = openBrace :: r' → ¬ tripleClose <:+: r') :
    readAfterBraces r = readDouble r := by
  cases r with
  | nil => rfl
  | cons c r =>
    rw [readAfterBraces]
    split
    · rename_i hbrace
      subst hbrace
      rw [readTriple?_eq_none_iff.2 (hnotTriple r rfl)]
      rfl
    · rfl

theorem read_doubleOpen_append (r : Text) : read (doubleOpen ++ r) = readAfterBraces r := rfl

/-- The reader reads a written tag and takes in its piece. -/
theorem read_of_written {t : Tag} {piece rest : Text} (hwritten : Written t piece rest) :
    read (piece ++ rest) = .tag t piece.length := by
  cases hwritten with
  | @triple inner _ hend =>
    have hread : read (tripleOpen ++ inner ++ tripleClose ++ rest) =
        (readTriple? (inner ++ tripleClose ++ rest)).getD
          (readDouble (openBrace :: (inner ++ tripleClose ++ rest))) := by
      simp [tripleOpen, read, readAfterBraces]
    rw [hread, readTriple?_of_firstAfter rest hend]
    simp [tripleOpen, tripleClose]
  | @signed c kind inner _ hsign hend =>
    have hbrace : c ≠ openBrace := by
      rintro rfl
      simp [show Kind.ofSign? openBrace = none by decide] at hsign
    rw [List.append_assoc, read_doubleOpen_append, List.cons_append, readAfterBraces, if_neg hbrace,
      readDouble, hsign]
    simp only
    rw [readBody_of_firstAfter kind 1 rest hend]
    simp [doubleOpen, doubleClose]
  | @plain inner _ hunsigned hnotTriple hend =>
    rw [List.append_assoc, read_doubleOpen_append, readAfterBraces_eq_readDouble hnotTriple,
      readDouble_of_unsigned, readBody_of_firstAfter (.print true) 0 rest hend]
    · simp [doubleOpen, doubleClose]
    · simp [doubleClose]
    · cases inner with
      | nil => simp [doubleClose]; decide
      | cons c inner => simpa using hunsigned

theorem doubleClose_infix_cons_iff {c : CodePoint} {r : Text} (hc : c ≠ closeBrace) :
    doubleClose <:+: c :: r ↔ doubleClose <:+: r := by
  rw [List.infix_cons_iff]
  refine or_iff_right ?_
  rintro ⟨x, hx⟩
  simp only [doubleClose, List.cons_append, List.cons.injEq] at hx
  exact hc hx.1.symm

/-- Two opening braces begin a tag if two closing ones follow. -/
theorem exists_written_of_closed {r : Text} (hclose : doubleClose <:+: r) :
    ∃ t piece rest, doubleOpen ++ r = piece ++ rest ∧ Written t piece rest := by
  by_cases htriple : ∃ r', r = openBrace :: r' ∧ tripleClose <:+: r'
  · obtain ⟨r', rfl, hin⟩ := htriple
    obtain ⟨inner, rest, rfl, hend⟩ := Text.exists_firstAfter hin
    exact ⟨_, _, rest, by simp [doubleOpen, tripleOpen], .triple hend⟩
  · by_cases hsign : ∃ c r' kind, r = c :: r' ∧ Kind.ofSign? c = some kind
    · obtain ⟨c, r', kind, rfl, hkind⟩ := hsign
      have hbrace : c ≠ closeBrace := by
        rintro rfl
        simp [show Kind.ofSign? closeBrace = none by decide] at hkind
      rw [doubleClose_infix_cons_iff hbrace] at hclose
      obtain ⟨inner, rest, rfl, hend⟩ := Text.exists_firstAfter hclose
      exact ⟨_, _, rest, by simp, .signed hkind hend⟩
    · obtain ⟨inner, rest, rfl, hend⟩ := Text.exists_firstAfter hclose
      refine ⟨_, _, rest, (List.append_assoc _ _ _).symm, .plain ?_ ?_ hend⟩
      · intro c hc
        cases inner with
        | nil => cases hc
        | cons d inner =>
          cases hc
          cases hkind : Kind.ofSign? c with
          | none => rfl
          | some kind => exact absurd ⟨c, _, kind, rfl, hkind⟩ hsign
      · exact fun r' hr' hin => htriple ⟨r', hr', hin⟩

/-- Two opening braces without two closing ones behind them are read as such. -/
theorem read_of_unclosed {r : Text} (hclose : ¬ doubleClose <:+: r) :
    read (doubleOpen ++ r) = .unclosed := by
  have hnotTriple : ∀ r', r = openBrace :: r' → ¬ tripleClose <:+: r' := by
    rintro r' rfl hin
    have hdouble : doubleClose <:+: tripleClose := ⟨[], [closeBrace], rfl⟩
    exact hclose ((hdouble.trans hin).trans (List.suffix_cons _ _).isInfix)
  rw [read_doubleOpen_append, readAfterBraces_eq_readDouble hnotTriple]
  cases r with
  | nil => rfl
  | cons c r =>
    rw [readDouble]
    split
    · exact readBody_eq_unclosed_iff.2 fun hin => hclose (hin.trans (List.suffix_cons _ _).isInfix)
    · exact readBody_eq_unclosed_iff.2 hclose

/-- Where no two opening braces stand there is no tag. -/
theorem read_of_unopened {w : Text} (hopen : ¬ doubleOpen <+: w) : read w = .none := by
  match w with
  | [] => rfl
  | [_] => rfl
  | a :: b :: r =>
    rw [read, if_neg]
    rintro ⟨rfl, rfl⟩
    exact hopen ⟨r, rfl⟩

/-- A text begins with a tag, or with opening braces that are not closed, or with
    anything else. -/
theorem read_cases (w : Text) :
    (¬ doubleOpen <+: w ∧ read w = .none) ∨
      (∃ r, w = doubleOpen ++ r ∧ ¬ doubleClose <:+: r ∧ read w = .unclosed) ∨
      ∃ t piece rest, w = piece ++ rest ∧ Written t piece rest ∧ read w = .tag t piece.length := by
  by_cases hopen : doubleOpen <+: w
  · obtain ⟨r, rfl⟩ := hopen
    by_cases hclose : doubleClose <:+: r
    · obtain ⟨t, piece, rest, hw, hwritten⟩ := exists_written_of_closed hclose
      exact .inr (.inr ⟨t, piece, rest, hw, hwritten, hw ▸ read_of_written hwritten⟩)
    · exact .inr (.inl ⟨r, rfl, hclose, read_of_unclosed hclose⟩)
  · exact .inl ⟨hopen, read_of_unopened hopen⟩

/-- A written tag stands between two opening and two closing braces. -/
theorem Written.eq_braces {t : Tag} {piece rest : Text} (hwritten : Written t piece rest) :
    ∃ inner, piece = doubleOpen ++ inner ++ doubleClose := by
  cases hwritten with
  | @triple inner _ hend =>
    exact ⟨openBrace :: inner ++ [closeBrace], by simp [tripleOpen, doubleOpen, tripleClose,
      doubleClose]⟩
  | @signed c _ inner _ hsign hend => exact ⟨c :: inner, by simp⟩
  | @plain inner _ hunsigned hnotTriple hend => exact ⟨inner, by simp⟩

/-- Behind opening braces that are not closed stands no tag. -/
theorem not_written_of_unclosed {r before piece rest : Text} {t : Tag}
    (hclose : ¬ doubleClose <:+: r) (hsplit : doubleOpen ++ r = before ++ (piece ++ rest)) :
    ¬ Written t piece rest := by
  intro hwritten
  obtain ⟨inner, rfl⟩ := hwritten.eq_braces
  have hr : r = (before ++ (doubleOpen ++ inner)).drop 2 ++ (doubleClose ++ rest) := by
    have hdrop := congrArg (List.drop 2) hsplit
    have hlong : 2 ≤ (before ++ (doubleOpen ++ inner)).length := by
      simp only [doubleOpen, List.length_append, List.length_cons]
      omega
    rw [← List.drop_append_of_le_length hlong]
    simpa [doubleOpen] using hdrop
  exact hclose ⟨_, rest, by rw [hr, List.append_assoc]⟩

/-- What ends a tag that is written out. -/
def Kind.closer : Kind → Text
  | .print false => tripleClose
  | _ => doubleClose

/-- The name of a tag can be written between blanks and read again. -/
structure Readable (t : Tag) : Prop where
  trimmed : t.name.trim = t.name
  closed : ¬ t.kind.closer <:+: t.name

theorem closer_not_inside {kind : Kind} {t : Text} (hclose : ¬ doubleClose <:+: t) :
    ¬ kind.closer <:+: t := by
  intro hin
  have hdouble : doubleClose <:+: kind.closer := by
    unfold Kind.closer
    split
    · exact ⟨[], [closeBrace], rfl⟩
    · exact List.infix_rfl
  exact hclose (hdouble.trans hin)

/-- The name of a written tag can be written out again: it is trimmed and does not hold what ends
its tag. -/
theorem Written.readable {t : Tag} {piece rest : Text} (hwritten : Written t piece rest) :
    t.Readable := by
  have hdouble : ∀ {kind : Kind} {inner : Text}, Text.FirstAfter doubleClose inner →
      Readable ⟨kind, inner.trim⟩ := fun {kind inner} hend =>
    ⟨inner.trim_trim, closer_not_inside fun hin =>
      hend.not_inside (by simp [doubleClose]) (hin.trans inner.trim_isInfix)⟩
  cases hwritten with
  | @triple inner _ hend =>
    exact ⟨inner.trim_trim, fun hin =>
      hend.not_inside (by simp [tripleClose]) (hin.trans inner.trim_isInfix)⟩
  | signed hsign hend => exact hdouble hend
  | plain hunsigned hnotTriple hend => exact hdouble hend

end Tag

namespace Token

/-- A piece that has been read is skipped code point by code point. -/
theorem scanFrom_skip (offset : Nat) (piece rest : Text) :
    scanFrom piece.length offset (piece ++ rest) = scanFrom 0 (offset + piece.length) rest := by
  induction piece generalizing offset with
  | nil => rfl
  | cons c piece ih =>
    rw [List.length_cons, List.cons_append, scanFrom, ih, Nat.add_right_comm, Nat.add_assoc]

/-- A written piece is one token, and the scan goes on behind it. -/
theorem scanFrom_written {t : Tag} {piece rest : Text} (offset : Nat)
    (hwritten : Tag.Written t piece rest) :
    scanFrom 0 offset (piece ++ rest) =
      .tag t offset :: scanFrom 0 (offset + piece.length) rest := by
  have hread := Tag.read_of_written hwritten
  cases hpiece : piece with
  | nil =>
    obtain ⟨inner, hinner⟩ := hwritten.eq_braces
    simp [hpiece, Tag.doubleOpen] at hinner
  | cons c piece =>
    rw [hpiece] at hread
    rw [List.cons_append] at hread ⊢
    rw [scanFrom, hread]
    simp only [List.length_cons, Nat.add_sub_cancel]
    rw [scanFrom_skip, Nat.add_right_comm, Nat.add_assoc]

/-- A code point with which no tag starts is literal. -/
theorem scanFrom_char {c : CodePoint} {r : Text} (offset : Nat)
    (hopen : ¬ Tag.doubleOpen <+: c :: r) :
    scanFrom 0 offset (c :: r) = .char c :: scanFrom 0 (offset + 1) r := by
  rw [scanFrom, Tag.read_of_unopened hopen]

/-- Opening braces with no closing ones behind them end the scan. -/
theorem scanFrom_unclosed {r : Text} (offset : Nat) (hclose : ¬ Tag.doubleClose <:+: r) :
    scanFrom 0 offset (Tag.doubleOpen ++ r) = [.unclosed offset] := by
  have hread := Tag.read_of_unclosed hclose
  rw [Tag.doubleOpen, List.cons_append] at hread ⊢
  rw [scanFrom, hread]

/-- The tokens of a text at an offset, piece by piece. -/
inductive Scans : Nat → Text → List Token → Prop where
  | nil (offset : Nat) : Scans offset [] []
  | char {offset : Nat} {c : CodePoint} {r : Text} {ts : List Token}
      (hopen : ¬ Tag.doubleOpen <+: c :: r) (hrest : Scans (offset + 1) r ts) :
      Scans offset (c :: r) (.char c :: ts)
  | tag {offset : Nat} {t : Tag} {piece rest : Text} {ts : List Token}
      (hwritten : Tag.Written t piece rest) (hrest : Scans (offset + piece.length) rest ts) :
      Scans offset (piece ++ rest) (.tag t offset :: ts)
  | unclosed {offset : Nat} {r : Text} (hclose : ¬ Tag.doubleClose <:+: r) :
      Scans offset (Tag.doubleOpen ++ r) [.unclosed offset]

/-- Every scan goes through a source piece by piece, as it is described. -/
theorem scans_scanFrom (offset : Nat) (s : Text) : Scans offset s (scanFrom 0 offset s) := by
  induction hlength : s.length using Nat.strongRecOn generalizing offset s with
  | ind n ih =>
    subst hlength
    rcases Tag.read_cases s with ⟨hopen, -⟩ | ⟨r, rfl, hclose, -⟩ | ⟨t, piece, rest, rfl, hwritten, -⟩
    · cases s with
      | nil => exact .nil offset
      | cons c r =>
        rw [scanFrom_char offset hopen]
        exact .char hopen (ih r.length (by simp) (offset + 1) r rfl)
    · rw [scanFrom_unclosed offset hclose]
      exact .unclosed hclose
    · obtain ⟨inner, hinner⟩ := hwritten.eq_braces
      rw [scanFrom_written offset hwritten]
      refine .tag hwritten (ih rest.length ?_ _ rest rfl)
      simp only [hinner, Tag.doubleOpen, List.length_append, List.length_cons]
      omega

/-- The tokens of a text are those of its pieces. -/
theorem scanFrom_eq_iff {offset : Nat} {s : Text} {ts : List Token} :
    scanFrom 0 offset s = ts ↔ Scans offset s ts := by
  constructor
  · rintro rfl
    exact scans_scanFrom offset s
  · intro hscans
    induction hscans with
    | nil => rfl
    | char hopen hrest ih => rw [scanFrom_char _ hopen, ih]
    | tag hwritten hrest ih => rw [scanFrom_written _ hwritten, ih]
    | unclosed hclose => exact scanFrom_unclosed _ hclose

end Token

end Stencil
