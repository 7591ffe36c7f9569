import Stencil.Proofs.Template.Nesting
import Stencil.Proofs.Template.Reading
import Stencil.Proofs.Template.Step

namespace Stencil

namespace Placed

/-- No tag begins in a text that has another one behind it. -/
def Untagged (s rest : Text) : Prop :=
  ∀ before inside t piece behind, s = before ++ inside → inside ≠ [] →
    inside ++ rest = piece ++ behind → ¬ Tag.Written t piece behind

/-- The tags of a text at an offset, from left to right, and the text behind the last
    one with its own offset. -/
inductive Splits : Nat → Text → List Placed → Nat → Text → Prop where
  | tail {offset : Nat} {s : Text} (huntagged : Untagged s []) : Splits offset s [] offset s
  | tag {offset start : Nat} {s piece rest tail : Text} {t : Tag} {ps : List Placed}
      (huntagged : Untagged s (piece ++ rest)) (hwritten : Tag.Written t piece rest)
      (hrest : Splits (offset + s.length + piece.length) rest ps start tail) :
      Splits offset (s ++ (piece ++ rest)) (⟨t, offset + s.length⟩ :: ps) start tail

theorem untagged_nil (rest : Text) : Untagged [] rest := by
  intro before inside t piece behind hsplit hne
  exact absurd (List.append_eq_nil_iff.1 hsplit.symm).2 hne

theorem Untagged.tail {c : CodePoint} {s rest : Text} (huntagged : Untagged (c :: s) rest) :
    Untagged s rest := by
  intro before inside t piece behind hsplit hne
  exact huntagged (c :: before) inside t piece behind (by rw [hsplit]; rfl) hne

theorem Untagged.cons {c : CodePoint} {s rest : Text} (hs : Untagged s rest)
    (hopen : ¬ Tag.doubleOpen <+: c :: (s ++ rest)) : Untagged (c :: s) rest := by
  intro before inside t piece behind hsplit hne hpiece hwritten
  cases before with
  | nil =>
    obtain rfl : c :: s = inside := hsplit
    obtain ⟨inner, rfl⟩ := hwritten.eq_braces
    exact hopen ⟨inner ++ Tag.doubleClose ++ behind, by
      rw [← List.cons_append, hpiece, List.append_assoc, List.append_assoc, List.append_assoc]⟩
  | cons d before =>
    simp only [List.cons_append, List.cons.injEq] at hsplit
    exact hs before inside t piece behind hsplit.2 hne hpiece hwritten

/-- Every text is split at its tags. -/
theorem exists_splits (offset : Nat) (s : Text) : ∃ ps start tail, Splits offset s ps start tail := by
  have hscans := Token.scans_scanFrom offset s
  generalize Token.scanFrom 0 offset s = ts at hscans
  induction hscans with
  | nil offset => exact ⟨[], offset, [], .tail (untagged_nil [])⟩
  | @char offset c r ts hopen hrest ih =>
    obtain ⟨ps, start, tail, hsplits⟩ := ih
    cases hsplits with
    | tail huntagged => exact ⟨[], offset, c :: r, .tail (huntagged.cons (by simpa using hopen))⟩
    | @tag _ _ s piece rest _ t ps huntagged hwritten hrest =>
      have hlength : offset + 1 + s.length = offset + (c :: s).length := by
        rw [List.length_cons]
        omega
      rw [hlength] at hrest
      exact ⟨_, start, tail, .tag (huntagged.cons hopen) hwritten hrest⟩
  | tag hwritten hrest ih =>
    obtain ⟨ps, start, tail, hsplits⟩ := ih
    exact ⟨_, start, tail, .tag (s := []) (untagged_nil _) hwritten hsplits⟩
  | @unclosed offset r hclose =>
    refine ⟨[], offset, _, .tail ?_⟩
    intro before inside t piece behind hsplit hne hpiece
    rw [List.append_nil] at hpiece
    exact Tag.not_written_of_unclosed hclose (hsplit.trans (congrArg _ hpiece))

/-- Every tag is written in the source where it is said to begin. -/
theorem Splits.exists_written {offset start : Nat} {s tail : Text} {ps : List Placed}
    (hsplits : Splits offset s ps start tail) {p : Placed} (hp : p ∈ ps) :
    ∃ before piece rest, s = before ++ (piece ++ rest) ∧ p.offset = offset + before.length ∧
      Tag.Written p.tag piece rest := by
  induction hsplits with
  | tail => cases hp
  | @tag offset _ s piece rest _ t ps huntagged hwritten hrest ih =>
    rcases List.mem_cons.1 hp with rfl | hp
    · exact ⟨s, piece, rest, rfl, rfl, hwritten⟩
    · obtain ⟨before, piece', rest', rfl, hoffset, hwritten'⟩ := ih hp
      refine ⟨s ++ (piece ++ before), piece', rest', by simp, ?_, hwritten'⟩
      rw [hoffset, List.length_append, List.length_append]
      omega

/-- Every tag begins with two opening braces, where it is said to begin. -/
theorem Splits.exists_braces {offset start : Nat} {s tail : Text} {ps : List Placed}
    (hsplits : Splits offset s ps start tail) {p : Placed} (hp : p ∈ ps) :
    ∃ before behind, s = before ++ (Tag.doubleOpen ++ behind) ∧
      p.offset = offset + before.length := by
  obtain ⟨before, piece, rest, rfl, hoffset, hwritten⟩ := hsplits.exists_written hp
  obtain ⟨inner, rfl⟩ := hwritten.eq_braces
  exact ⟨before, inner ++ Tag.doubleClose ++ rest, by simp, hoffset⟩

/-- The tail is what stands behind the last tag, and starts where that ends. -/
theorem Splits.tail_eq {offset start : Nat} {s tail : Text} {ps : List Placed}
    (hsplits : Splits offset s ps start tail) :
    ∃ before, s = before ++ tail ∧ start = offset + before.length := by
  induction hsplits with
  | tail => exact ⟨[], rfl, rfl⟩
  | @tag offset _ s piece rest _ t ps huntagged hwritten hrest ih =>
    obtain ⟨before, rfl, hstart⟩ := ih
    refine ⟨s ++ (piece ++ before), by simp, ?_⟩
    rw [hstart, List.length_append, List.length_append]
    omega

/-- The tokens before a tag are literal text. -/
theorem scanFrom_untagged {s piece rest : Text} {t : Tag} (offset : Nat)
    (huntagged : Untagged s (piece ++ rest)) (hwritten : Tag.Written t piece rest) :
    Token.scanFrom 0 offset (s ++ (piece ++ rest)) =
      s.map .char ++ .tag t (offset + s.length) ::
        Token.scanFrom 0 (offset + s.length + piece.length) rest := by
  induction s generalizing offset with
  | nil => exact Token.scanFrom_written offset hwritten
  | cons c s ih =>
    have hopen : ¬ Tag.doubleOpen <+: c :: (s ++ (piece ++ rest)) := by
      rcases Tag.read_cases (c :: (s ++ (piece ++ rest))) with
        ⟨hopen, -⟩ | ⟨r, hr, hclose, -⟩ | ⟨u, piece', behind, hpiece, hwritten', -⟩
      · exact hopen
      · have hsplit : Tag.doubleOpen ++ r = (c :: s) ++ (piece ++ rest) := hr.symm
        exact absurd hwritten (Tag.not_written_of_unclosed hclose hsplit)
      · exact absurd hwritten' (huntagged [] (c :: s) u piece' behind rfl (by simp) hpiece)
    rw [List.cons_append, Token.scanFrom_char offset hopen, ih _ huntagged.tail, List.length_cons,
      Nat.add_right_comm offset 1, ← Nat.add_assoc offset]
    rfl

/-- Behind the last tag the tokens are literal text, if no opening braces are left. -/
theorem scanFrom_of_unopened {s : Text} (offset : Nat) (hopen : ¬ Tag.doubleOpen <:+: s) :
    Token.scanFrom 0 offset s = s.map .char := by
  induction s generalizing offset with
  | nil => rfl
  | cons c s ih =>
    rw [List.infix_cons_iff, not_or] at hopen
    rw [Token.scanFrom_char offset hopen.1, ih _ hopen.2]
    rfl

/-- The first opening braces behind the last tag are not closed. -/
theorem scanFrom_braces {s rest : Text} (offset : Nat)
    (huntagged : Untagged (s ++ (Tag.doubleOpen ++ rest)) [])
    (hfirst : Text.FirstAfter Tag.doubleOpen s) :
    Token.scanFrom 0 offset (s ++ (Tag.doubleOpen ++ rest)) =
      s.map .char ++ [.unclosed (offset + s.length)] := by
  induction s generalizing offset with
  | nil =>
    by_cases hclose : Tag.doubleClose <:+: rest
    · obtain ⟨t, piece, behind, hpiece, hwritten⟩ := Tag.exists_written_of_closed hclose
      have hnone := huntagged [] (Tag.doubleOpen ++ rest) t piece behind rfl (by simp [Tag.doubleOpen])
        (by rw [List.append_nil, hpiece])
      exact absurd hwritten hnone
    · exact Token.scanFrom_unclosed offset hclose
  | cons c s ih =>
    have hopen : ¬ Tag.doubleOpen <+: c :: (s ++ (Tag.doubleOpen ++ rest)) := by
      intro hopen
      rw [← List.cons_append, ← List.append_assoc] at hopen
      cases hfirst.eq_nil_of_starts hopen
    rw [List.cons_append, Token.scanFrom_char offset hopen, ih _ huntagged.tail hfirst.tail,
      List.length_cons, Nat.add_right_comm, ← Nat.add_assoc]
    rfl

/-- The tags whose names are hashed: variables and sections. -/
def Hashed (p : Placed) : Prop :=
  (∃ escaped, p.tag.kind = .print escaped) ∨ ∃ inverted, p.tag.kind = .opening inverted

/-- The source is accepted: its tags nest and have names, and no opening braces are
    left behind the last one. -/
structure Accepts (ps : List Placed) (tail : Text) : Prop where
  named : Named ps
  nested : Nested ps
  closed : ¬ Tag.doubleOpen <:+: tail

/-- The source is refused: for the first tag that offends, or, if there is none, for
    the first opening braces behind the last tag, or, if there are none either, for the innermost
    section that is still open at the end. -/
inductive Refuses : List Placed → (start : Nat) → (tail : Text) → TemplateError → Prop where
  | offence {before after os : List Placed} {p : Placed} {start : Nat} {tail : Text}
      {cause : TemplateError.Cause} (hnamed : Named before) (hopens : Opens before os)
      (hoffends : Offends os p cause) : Refuses (before ++ p :: after) start tail ⟨cause, p.offset⟩
  | unclosedTag {ps os : List Placed} {start : Nat} {s rest : Text} (hnamed : Named ps)
      (hopens : Opens ps os) (hfirst : Text.FirstAfter Tag.doubleOpen s) :
      Refuses ps start (s ++ (Tag.doubleOpen ++ rest)) ⟨.unclosedTag, start + s.length⟩
  | unclosedSection {ps os : List Placed} {o : Placed} {start : Nat} {tail : Text}
      (hnamed : Named ps) (hopens : Opens ps (o :: os)) (hclosed : ¬ Tag.doubleOpen <:+: tail) :
      Refuses ps start tail ⟨.unclosedSection o.tag.name, o.offset⟩

/-- A source is accepted or refused. -/
theorem accepts_or_refuses (ps : List Placed) (start : Nat) (tail : Text) :
    Accepts ps tail ∨ ∃ e, Refuses ps start tail e := by
  rcases runs_or_offends [] ps with ⟨os, hruns⟩ | ⟨before, p, after, os, cause, rfl, hruns, hoffends⟩
  · obtain ⟨hopens, hnamed⟩ := runs_iff_opens.1 hruns
    by_cases hopen : Tag.doubleOpen <:+: tail
    · obtain ⟨s, rest, rfl, hfirst⟩ := Text.exists_firstAfter hopen
      rw [List.append_assoc]
      exact .inr ⟨_, .unclosedTag hnamed hopens hfirst⟩
    · cases os with
      | nil => exact .inl ⟨hnamed, opens_nil_iff.1 hopens, hopen⟩
      | cons o os => exact .inr ⟨_, .unclosedSection hnamed hopens hopen⟩
  · obtain ⟨hopens, hnamed⟩ := runs_iff_opens.1 hruns
    exact .inr ⟨_, .offence hnamed hopens hoffends⟩

/-- What is reported is the offset of two opening braces. -/
theorem Splits.braces_of_refuses {source tail : Text} {ps : List Placed} {start : Nat}
    {e : TemplateError} (hsplits : Splits 0 source ps start tail) (hrefuses : Refuses ps start tail e) :
    e.offset + 2 ≤ source.length ∧ (source.drop e.offset).take 2 = Tag.doubleOpen := by
  suffices hbraces : ∃ before behind, source = before ++ (Tag.doubleOpen ++ behind) ∧
      e.offset = before.length by
    obtain ⟨before, behind, rfl, hoffset⟩ := hbraces
    rw [hoffset, List.drop_left]
    simp only [Tag.doubleOpen, List.length_append, List.length_cons, List.length_nil]
    exact ⟨by omega, rfl⟩
  have hplaced : ∀ p ∈ ps, ∃ before behind, source = before ++ (Tag.doubleOpen ++ behind) ∧
      p.offset = before.length := by
    intro p hp
    obtain ⟨before, behind, hsource, hoffset⟩ := hsplits.exists_braces hp
    exact ⟨before, behind, hsource, by rw [hoffset, Nat.zero_add]⟩
  cases hrefuses with
  | @offence before after os p _ _ cause hnamed hopens hoffends => exact hplaced p (by simp)
  | @unclosedTag _ _ _ s rest hnamed hopens hfirst =>
    obtain ⟨before, rfl, rfl⟩ := hsplits.tail_eq
    exact ⟨before ++ s, rest, by simp, by simp⟩
  | unclosedSection hnamed hopens hclosed => exact hplaced _ (hopens.mem (by simp))

end Placed

namespace Builder

open Placed

/-- The builder has the same sections open, by name and offset. -/
def Agrees (b : Builder) (os : List Placed) : Prop :=
  b.opened.map (fun o => (o.name, o.offset)) = os.map fun p => (p.tag.name, p.offset)

/-- A tag that moves the open sections on is taken by a builder that agrees with them, if its name
can be hashed where it has to be, and the builder agrees with the new ones. -/
theorem take_of_moves {hasher : Hasher} {b : Builder} {os os' : List Placed} {p : Placed}
    (hmoves : Moves os p os') (hagrees : b.Agrees os)
    (hhash : p.Hashed → (hasher p.tag.name).isSome = true) :
    ∃ b', b.take hasher (.tag p.tag p.offset) = .ok b' ∧ b'.Agrees os' := by
  cases hmoves with
  | comment hkind => exact ⟨b, take_eq_ok_iff.2 (.comment hkind), hagrees⟩
  | print hkind hname =>
    obtain ⟨hash, hsome⟩ := Option.isSome_iff_exists.1 (hhash (.inl ⟨_, hkind⟩))
    exact ⟨_, take_eq_ok_iff.2 (.print hkind hname hsome), hagrees⟩
  | opening hkind hname =>
    obtain ⟨hash, hsome⟩ := Option.isSome_iff_exists.1 (hhash (.inr ⟨_, hkind⟩))
    refine ⟨_, take_eq_ok_iff.2 (.opening hkind hname hsome), ?_⟩
    exact List.cons_eq_cons.2 ⟨rfl, hagrees⟩
  | closing hkind hname hsame =>
    cases hopened : b.opened with
    | nil => simp [Agrees, hopened] at hagrees
    | cons o rest =>
      simp only [Agrees, hopened, List.map_cons, List.cons.injEq, Prod.mk.injEq] at hagrees
      obtain ⟨⟨hsection, -⟩, hrest⟩ := hagrees
      have hstep : Step hasher b (.tag p.tag p.offset) ⟨b.pushClosing o.index, rest, []⟩ :=
        .closing hkind hname hopened (hsection.trans hsame)
      exact ⟨_, take_eq_ok_iff.2 hstep, hrest⟩

/-- A tag that offends the open sections is refused by a builder that agrees with them, with the
cause of the grammar and at the offset of the tag. -/
theorem take_of_offends {hasher : Hasher} {b : Builder} {os : List Placed} {p : Placed}
    {cause : TemplateError.Cause} (hoffends : Offends os p cause) (hagrees : b.Agrees os) :
    b.take hasher (.tag p.tag p.offset) = CompileError.fail cause p.offset := by
  cases hoffends with
  | emptyName hkind hname => simp [take, takeTag, hkind, hname]
  | strayClosing hkind hname =>
    have hopened : b.opened = [] := List.map_eq_nil_iff.1 hagrees
    simp [take, takeTag, hkind, hname, close, hopened]
  | mismatch hkind hname hother =>
    cases hopened : b.opened with
    | nil => simp [Agrees, hopened] at hagrees
    | cons o rest =>
      simp only [Agrees, hopened, List.map_cons, List.cons.injEq, Prod.mk.injEq] at hagrees
      obtain ⟨⟨hsection, hoffset⟩, -⟩ := hagrees
      simp [take, takeTag, hkind, hname, close, hopened, hsection, hoffset, hother]

/-- Literal text is kept, and offends nothing. -/
theorem foldlM_take_chars (hasher : Hasher) (b : Builder) (s : Text) (ts : List Token) :
    (s.map Token.char ++ ts).foldlM (take hasher) b =
      ts.foldlM (take hasher) { b with pending := s.reverse ++ b.pending } := by
  induction s generalizing b with
  | nil => rfl
  | cons c s ih =>
    rw [List.map_cons, List.cons_append, List.foldlM_cons]
    refine (ih _).trans ?_
    rw [List.reverse_cons, List.append_assoc]
    rfl

/-- Reading a source up to one of its tags: what is left is read by a builder that has
    the same sections open. -/
theorem foldlM_take_of_runs {hasher : Hasher} {offset start : Nat} {s tail : Text} {b : Builder}
    {before after os os' : List Placed} (hruns : Runs os before os')
    (hsplits : Splits offset s (before ++ after) start tail) (hagrees : b.Agrees os)
    (hhash : ∀ p ∈ before, p.Hashed → (hasher p.tag.name).isSome = true) :
    ∃ b' offset' s', b'.Agrees os' ∧ Splits offset' s' after start tail ∧
      (Token.scanFrom 0 offset s).foldlM (take hasher) b =
        (Token.scanFrom 0 offset' s').foldlM (take hasher) b' := by
  induction hruns generalizing offset s b with
  | nil => exact ⟨b, offset, s, hagrees, hsplits, rfl⟩
  | cons hmoves hruns ih =>
    obtain ⟨hp, hbehind⟩ := List.forall_mem_cons.1 hhash
    cases hsplits with
    | @tag _ _ s piece rest _ t _ huntagged hwritten hrest =>
      obtain ⟨b', htake, hagrees'⟩ :=
        take_of_moves (b := { b with pending := s.reverse ++ b.pending }) hmoves hagrees hp
      obtain ⟨b'', offset'', s'', hagrees'', hsplits'', hread⟩ := ih hrest hagrees' hbehind
      refine ⟨b'', offset'', s'', hagrees'', hsplits'', ?_⟩
      rw [scanFrom_untagged offset huntagged hwritten, foldlM_take_chars, List.foldlM_cons, htake]
      exact hread

/-- Reading a source up to the text behind its last tag. -/
theorem foldlM_take_tail {hasher : Hasher} {source tail : Text} {ps os : List Placed} {start : Nat}
    (hruns : Runs [] ps os) (hsplits : Splits 0 source ps start tail)
    (hhash : ∀ p ∈ ps, p.Hashed → (hasher p.tag.name).isSome = true) :
    ∃ b : Builder, b.Agrees os ∧ Untagged tail [] ∧
      (Token.scan source).foldlM (take hasher) {} =
        (Token.scanFrom 0 start tail).foldlM (take hasher) b := by
  rw [← List.append_nil ps] at hsplits
  obtain ⟨b, offset, s, hagrees, hsplits, hread⟩ :=
    foldlM_take_of_runs (b := {}) hruns hsplits rfl hhash
  cases hsplits with
  | tail huntagged => exact ⟨b, hagrees, huntagged, hread⟩

/-- What the first tag of a source is refused for ends the reading. -/
theorem foldlM_take_of_refused {hasher : Hasher} {offset start : Nat} {s tail : Text} {b : Builder}
    {after : List Placed} {p : Placed} {e : CompileError}
    (hsplits : Splits offset s (p :: after) start tail)
    (hrefused : ∀ pending, take hasher { b with pending := pending } (.tag p.tag p.offset) =
      .error e) :
    (Token.scanFrom 0 offset s).foldlM (take hasher) b = .error e := by
  cases hsplits with
  | @tag _ _ s piece rest _ t _ huntagged hwritten hrest =>
    rw [scanFrom_untagged offset huntagged hwritten, foldlM_take_chars, List.foldlM_cons, hrefused]
    rfl

end Builder

namespace Template

open Placed

section

variable {hasher : Hasher} {source tail : Text} {ps : List Placed} {start : Nat}

/-- A source that the grammar accepts compiles, if the names to be hashed have a hash. -/
theorem compileWith_of_accepts (hsplits : Splits 0 source ps start tail)
    (hhash : ∀ p ∈ ps, p.Hashed → (hasher p.tag.name).isSome = true) (haccepts : Accepts ps tail) :
    ∃ t, compileWith hasher source = .ok t := by
  have hruns := runs_iff_opens.2 ⟨opens_nil_iff.2 haccepts.nested, haccepts.named⟩
  obtain ⟨b, hagrees, -, hread⟩ := Builder.foldlM_take_tail hruns hsplits hhash
  rw [scanFrom_of_unopened _ haccepts.closed, ← List.append_nil (tail.map _),
    Builder.foldlM_take_chars] at hread
  have hopened : b.opened = [] := List.map_eq_nil_iff.1 hagrees
  exact ⟨_, compileWith_eq_ok_iff.2 ⟨_, Builder.foldlM_take_eq_ok_iff.1 hread, hopened, rfl⟩⟩

theorem compileWith_of_foldlM {e : CompileError}
    (hread : ((Token.scan source).foldlM (Builder.take hasher) {} >>= Builder.finish) = .error e) :
    compileWith hasher source = .error e := by
  rw [compileWith, show Builder.build hasher source = .error e from hread]
  rfl

/-- A source is refused for the first of its tags that is not taken in. -/
theorem compileWith_of_refused {before after os : List Placed} {p : Placed} {e : CompileError}
    (hsplits : Splits 0 source (before ++ p :: after) start tail) (hruns : Runs [] before os)
    (hhash : ∀ q ∈ before, q.Hashed → (hasher q.tag.name).isSome = true)
    (hrefused : ∀ b : Builder, b.Agrees os → b.take hasher (.tag p.tag p.offset) = .error e) :
    compileWith hasher source = .error e := by
  obtain ⟨b, offset, s, hagrees, hsplits, hread⟩ :=
    Builder.foldlM_take_of_runs (b := {}) hruns hsplits rfl hhash
  rw [Builder.foldlM_take_of_refused hsplits fun pending => hrefused { b with pending } hagrees]
    at hread
  refine compileWith_of_foldlM ?_
  rw [Token.scan, hread]
  rfl

/-- Only the tags that are read need a hash. -/
theorem compileWith_of_refuses {e : TemplateError} (hsplits : Splits 0 source ps start tail)
    (hhash : ∀ before after os, ps = before ++ after → Runs [] before os →
      ∀ p ∈ before, p.Hashed → (hasher p.tag.name).isSome = true)
    (hrefuses : Refuses ps start tail e) : compileWith hasher source = .error (.malformed e) := by
  have hread : ∀ {os}, Runs [] ps os → ∀ p ∈ ps, p.Hashed → (hasher p.tag.name).isSome = true :=
    fun hruns => hhash _ [] _ (List.append_nil _).symm hruns
  cases hrefuses with
  | offence hnamed hopens hoffends =>
    have hruns := hopens.runs hnamed
    exact compileWith_of_refused hsplits hruns (hhash _ _ _ rfl hruns) fun b hagrees =>
      Builder.take_of_offends hoffends hagrees
  | unclosedTag hnamed hopens hfirst =>
    have hruns := hopens.runs hnamed
    obtain ⟨b, hagrees, huntagged, hfold⟩ :=
      Builder.foldlM_take_tail hruns hsplits (hread hruns)
    refine compileWith_of_foldlM ?_
    rw [hfold, scanFrom_braces _ huntagged hfirst, Builder.foldlM_take_chars]
    rfl
  | unclosedSection hnamed hopens hclosed =>
    have hruns := hopens.runs hnamed
    obtain ⟨b, hagrees, -, hfold⟩ := Builder.foldlM_take_tail hruns hsplits (hread hruns)
    refine compileWith_of_foldlM ?_
    rw [hfold, scanFrom_of_unopened _ hclosed, ← List.append_nil (tail.map _),
      Builder.foldlM_take_chars]
    obtain ⟨blocks, opened, pending⟩ := b
    cases opened with
    | nil => simp [Builder.Agrees] at hagrees
    | cons o rest =>
      simp only [Builder.Agrees, List.map_cons, List.cons.injEq, Prod.mk.injEq] at hagrees
      obtain ⟨⟨hsection, hoffset⟩, -⟩ := hagrees
      rw [← hsection, ← hoffset]
      rfl

end

/-- A source whose names all have a hash is accepted exactly if its tags nest and have
    names and no opening braces are left behind the last one. Otherwise it is refused for the first
    offence, at the offset of two opening braces. -/
theorem compile_iff_grammar (source : Text) :
    (∃ ps start tail, Splits 0 source ps start tail) ∧
      ∀ ps start tail, Splits 0 source ps start tail →
        (∀ p ∈ ps, p.Hashed → p.tag.name.hasSurrogate = false) →
          ((∃ t, compile source = .ok t) ↔ Accepts ps tail) ∧
            (∀ e, compile source = .error e ↔
              ∃ r, e = .malformed r ∧ Refuses ps start tail r) ∧
            ∀ r, Refuses ps start tail r →
              r.offset + 2 ≤ source.length ∧ (source.drop r.offset).take 2 = Tag.doubleOpen := by
  refine ⟨exists_splits 0 source, fun ps start tail hsplits hnames => ?_⟩
  have hhash : ∀ p ∈ ps, p.Hashed → (Hasher.standard p.tag.name).isSome = true :=
    fun p hp hhashed => (Hasher.standard_isSome_iff _).2 (hnames p hp hhashed)
  have haccepted := compileWith_of_accepts hsplits hhash
  have hrefused : ∀ {r}, Refuses ps start tail r → compile source = .error (.malformed r) :=
    compileWith_of_refuses hsplits fun _ _ _ happend _ p hp =>
      hhash p (happend ▸ List.mem_append_left _ hp)
  refine ⟨⟨?_, haccepted⟩, fun e => ⟨?_, ?_⟩, fun _ => hsplits.braces_of_refuses⟩
  · rintro ⟨t, hok⟩
    rcases accepts_or_refuses ps start tail with haccepts | ⟨r, hrefuses⟩
    · exact haccepts
    · simp [hrefused hrefuses] at hok
  · intro herror
    rcases accepts_or_refuses ps start tail with haccepts | ⟨r, hrefuses⟩
    · obtain ⟨t, hok⟩ := haccepted haccepts
      simp [compile, hok] at herror
    · rw [hrefused hrefuses] at herror
      cases herror
      exact ⟨r, rfl, hrefuses⟩
  · rintro ⟨r, rfl, hrefuses⟩
    exact hrefused hrefuses

/-- The wrong name of a closing tag is reported before the opening braces behind it. -/
theorem compile_iff_grammar_mismatch :
    Splits 0 (Text.of "\x7b\x7b#a\x7d\x7d\x7b\x7b/b\x7d\x7d\x7b\x7b")
        [⟨⟨.opening false, Text.of "a"⟩, 0⟩, ⟨⟨.closing, Text.of "b"⟩, 6⟩] 12
        (Text.of "\x7b\x7b") ∧
      compile (Text.of "\x7b\x7b#a\x7d\x7d\x7b\x7b/b\x7d\x7d\x7b\x7b") =
        .error (.malformed ⟨.mismatch (Text.of "b") (Text.of "a") 0, 6⟩) := by
  have hfirst : ∀ c : CodePoint, c ≠ Tag.closeBrace → Text.FirstAfter Tag.doubleClose [c] := by
    intro c hc
    exact (Text.FirstAfter.nil _).cons_of_not_mem (s := []) (by simpa [Tag.doubleClose] using hc)
      (by simp [Tag.doubleClose])
  have hsplits : Splits 0 (Text.of "\x7b\x7b#a\x7d\x7d\x7b\x7b/b\x7d\x7d\x7b\x7b")
      [⟨⟨.opening false, Text.of "a"⟩, 0⟩, ⟨⟨.closing, Text.of "b"⟩, 6⟩] 12
      (Text.of "\x7b\x7b") := by
    have hopening : Tag.Written ⟨.opening false, Text.of "a"⟩ (Text.of "\x7b\x7b#a\x7d\x7d")
        (Text.of "\x7b\x7b/b\x7d\x7d\x7b\x7b") :=
      @Tag.Written.signed '#' _ (Text.of "a") _ (by decide) (hfirst _ (by decide))
    have hclosing : Tag.Written ⟨.closing, Text.of "b"⟩ (Text.of "\x7b\x7b/b\x7d\x7d")
        (Text.of "\x7b\x7b") :=
      @Tag.Written.signed '/' _ (Text.of "b") _ (by decide) (hfirst _ (by decide))
    refine .tag (s := []) (untagged_nil _) hopening (.tag (s := []) (untagged_nil _) hclosing
      (.tail ?_))
    intro before inside t piece behind hsplit hne hpiece
    rw [List.append_nil] at hpiece
    exact Tag.not_written_of_unclosed (r := []) (by simp [Tag.doubleClose])
      (hsplit.trans (congrArg _ hpiece))
  refine ⟨hsplits, ?_⟩
  have hnames : ∀ p ∈ [⟨⟨.opening false, Text.of "a"⟩, 0⟩, (⟨⟨.closing, Text.of "b"⟩, 6⟩ : Placed)],
      p.tag.name.hasSurrogate = false := by decide
  have hgrammar := (compile_iff_grammar _).2 _ _ _ hsplits fun p hp _ => hnames p hp
  have hrefuses : Refuses
      ([⟨⟨.opening false, Text.of "a"⟩, 0⟩] ++ ⟨⟨.closing, Text.of "b"⟩, 6⟩ :: []) 12
      (Text.of "\x7b\x7b") ⟨.mismatch (Text.of "b") (Text.of "a") 0, 6⟩ :=
    .offence (List.forall_mem_singleton.2 fun _ => by decide)
      (.opened (.level .nil) ⟨false, rfl⟩ .nil) (.mismatch rfl (by decide) (by decide))
  exact (hgrammar.2.1 _).2 ⟨_, rfl, hrefuses⟩

end Template

end Stencil
