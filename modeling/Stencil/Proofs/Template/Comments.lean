import Stencil.Proofs.Template.Relocation

namespace Stencil

/-- Where the code point at an offset stands after `count` others are put in at `start`. -/
def Text.offsetAfter (start count offset : Nat) : Nat :=
  if offset < start then offset else offset + count

namespace TemplateError

/-- The cause with another offset. -/
def Cause.relocate (f : Nat → Nat) : Cause → Cause
  | mismatch name opened openedAt => mismatch name opened (f openedAt)
  | cause => cause

/-- The same error with other offsets. -/
def relocate (f : Nat → Nat) (e : TemplateError) : TemplateError :=
  ⟨e.cause.relocate f, f e.offset⟩

end TemplateError

/-- The same refusal with other offsets. -/
def CompileError.relocate (f : Nat → Nat) : CompileError → CompileError
  | malformed e => malformed (e.relocate f)
  | unhashable name => unhashable name

namespace Token

/-- The token with another offset. -/
def relocate (f : Nat → Nat) : Token → Token
  | char c => char c
  | tag t offset => tag t (f offset)
  | unclosed offset => unclosed (f offset)

/-- The token is literal text, or its offset is one of these. -/
def At (P : Nat → Prop) : Token → Prop
  | char _ => True
  | tag _ offset => P offset
  | unclosed offset => P offset

variable {f : Nat → Nat} {P : Nat → Prop} {t : Token}

theorem relocate_eq_of_at (hat : t.At P) (hf : ∀ n, P n → f n = n) : t.relocate f = t := by
  cases t with
  | char c => rfl
  | tag t offset => rw [relocate, hf offset hat]
  | unclosed offset => rw [relocate, hf offset hat]

theorem relocate_shift (f : Nat → Nat) (count : Nat) (t : Token) :
    (t.shift count).relocate f = t.relocate fun n => f (n + count) := by
  cases t <;> rfl

theorem shift_shift (count more : Nat) (t : Token) :
    (t.shift count).shift more = t.relocate (· + count + more) := by
  cases t <;> rfl

/-- The tokens of a text are inside it. -/
theorem at_of_mem_scanFrom {skip offset : Nat} {s : Text} (ht : t ∈ scanFrom skip offset s) :
    t.At (· < offset + s.length) := by
  induction s generalizing skip offset with
  | nil => cases skip <;> cases ht
  | cons c s ih =>
    have hlength : offset + (c :: s).length = offset + 1 + s.length := by
      rw [List.length_cons]
      omega
    have hhere : offset < offset + 1 + s.length := by omega
    rw [hlength]
    cases skip with
    | succ skip =>
      rw [scanFrom] at ht
      exact ih ht
    | zero =>
      rw [scanFrom] at ht
      split at ht
      · rcases List.mem_cons.1 ht with rfl | ht
        · trivial
        · exact ih ht
      · obtain rfl := List.mem_singleton.1 ht
        exact hhere
      · rcases List.mem_cons.1 ht with rfl | ht
        · exact hhere
        · exact ih ht

end Token

namespace Builder

/-- The builder with other offsets of its open sections. -/
def relocate (f : Nat → Nat) (b : Builder) : Builder :=
  { b with opened := b.opened.map fun o => { o with offset := f o.offset } }

variable {hasher : Hasher} (f : Nat → Nat)

/-- How reading ends, with other offsets. -/
def relocateResult (r : Except CompileError Builder) : Except CompileError Builder :=
  (r.map (relocate f)).mapError (CompileError.relocate f)

/-- Closing a section looks at the names of the open sections and reports an offset, but never
compares offsets. -/
theorem close_relocate (b : Builder) (name : Text) (offset : Nat) :
    (b.relocate f).close name (f offset) = relocateResult f (b.close name offset) := by
  unfold close
  cases hopened : b.opened with
  | nil => simp only [relocate, hopened, List.map_nil]; rfl
  | cons o rest =>
    simp only [relocate, hopened, List.map_cons]
    split <;> rfl

theorem map_hashed_relocate (name : Text) (g h : FieldName → Builder)
    (hsame : ∀ n, h n = (g n).relocate f) :
    (CompileError.hashed hasher name).map h =
      relocateResult f ((CompileError.hashed hasher name).map g) := by
  cases hhash : CompileError.hashed hasher name with
  | ok n => exact congrArg Except.ok (hsame n)
  | error e =>
    obtain ⟨-, rfl⟩ := CompileError.map_hashed_eq_error_iff.1 (congrArg (Except.map h) hhash)
    rfl

/-- A step does the same whatever numbers stand for the offsets: its result, an error included,
holds the new ones. -/
theorem take_relocate (b : Builder) (t : Token) :
    (b.relocate f).take hasher (t.relocate f) = relocateResult f (b.take hasher t) := by
  cases t with
  | char c => rfl
  | unclosed offset => rfl
  | tag t offset =>
    simp only [Token.relocate, take, takeTag]
    split
    · rfl
    · cases t.kind with
      | comment => rfl
      | closing => exact close_relocate f b t.name offset
      | print escaped => exact map_hashed_relocate f t.name _ _ fun n => rfl
      | opening inverted => exact map_hashed_relocate f t.name _ _ fun n => rfl

/-- Tokens at other offsets are read alike. -/
theorem foldlM_take_relocate (b : Builder) (ts : List Token) :
    (ts.map (Token.relocate f)).foldlM (take hasher) (b.relocate f) =
      relocateResult f (ts.foldlM (take hasher) b) := by
  induction ts generalizing b with
  | nil => rfl
  | cons t ts ih =>
    rw [List.map_cons, List.foldlM_cons, List.foldlM_cons, take_relocate]
    cases b.take hasher t with
    | error e => rfl
    | ok c => exact ih c

theorem finish_relocate (b : Builder) :
    (b.relocate f).finish = b.finish.mapError (CompileError.relocate f) := by
  unfold finish
  cases hopened : b.opened with
  | nil => simp only [relocate, hopened, List.map_nil]; rfl
  | cons o rest => simp only [relocate, hopened, List.map_cons]; rfl

/-- The blocks that tokens come to, or the error in them. -/
def ofTokens (hasher : Hasher) (ts : List Token) : Except CompileError (Array Block) := do
  let b ← ts.foldlM (take hasher) {}
  b.finish

/-- The blocks of a run of tokens do not depend on the offsets, and the offset of an error is moved
with the tokens. -/
theorem ofTokens_relocate (ts : List Token) :
    ofTokens hasher (ts.map (Token.relocate f)) =
      (ofTokens hasher ts).mapError (CompileError.relocate f) := by
  have hread : (ts.map (Token.relocate f)).foldlM (take hasher) {} =
      relocateResult f (ts.foldlM (take hasher) {}) := foldlM_take_relocate f {} ts
  unfold ofTokens
  rw [hread]
  cases ts.foldlM (take hasher) {} with
  | error e => rfl
  | ok b => exact finish_relocate f b

/-- A comment is read and leaves the builder as it is. -/
theorem ofTokens_comment {t : Tag} (hkind : t.kind = .comment) (offset : Nat) (ts us : List Token) :
    ofTokens hasher (ts ++ .tag t offset :: us) = ofTokens hasher (ts ++ us) := by
  have htake : ∀ b : Builder, b.take hasher (.tag t offset) = .ok b := fun b =>
    take_eq_ok_iff.2 (.comment hkind)
  unfold ofTokens
  rw [List.foldlM_append, List.foldlM_append]
  refine congrArg (· >>= finish) (bind_congr fun b => ?_)
  rw [List.foldlM_cons, htake]
  rfl

end Builder

/-- The tokens of a source with a comment in it are those without it, moved, and the comment. -/
theorem Token.Sealed.scan_comment {u c : Text} (hu : Sealed u)
    (hend : Text.FirstAfter Tag.doubleClose c) (v : Text) :
    ∃ ts us, scan (u ++ v) = ts ++ us ∧
      scan (u ++ (Tag.signed '!' c ++ v)) =
        ts.map (relocate (Text.offsetAfter u.length (Tag.signed '!' c).length)) ++
          .tag ⟨.comment, c.trim⟩ u.length ::
            us.map (relocate (Text.offsetAfter u.length (Tag.signed '!' c).length)) := by
  generalize hwidth : (Tag.signed '!' c).length = width
  have hwritten : Tag.Written ⟨.comment, c.trim⟩ (Tag.signed '!' c) v := .signed (by decide) hend
  have hcomment : scan (Tag.signed '!' c ++ v) =
      .tag ⟨.comment, c.trim⟩ 0 :: (scan v).map (shift width) := by
    rw [scan, scanFrom_written 0 hwritten, scanFrom_add, hwidth]
    rfl
  have hbefore : (scan u).map (relocate (Text.offsetAfter u.length width)) = scan u := by
    have hfixed : ∀ t ∈ scan u, t.relocate (Text.offsetAfter u.length width) = t := fun t ht =>
      relocate_eq_of_at (at_of_mem_scanFrom ht) fun n hn => if_pos (by omega)
    exact (List.map_congr_left hfixed).trans (List.map_id _)
  have hbehind : ∀ t : Token, (t.shift u.length).relocate (Text.offsetAfter u.length width) =
      (t.shift width).shift u.length := by
    intro t
    rw [relocate_shift, shift_shift]
    refine congrArg (relocate · t) (funext fun n => ?_)
    rw [Text.offsetAfter, if_neg (by omega)]
    omega
  refine ⟨scan u, (scan v).map (shift u.length), hu.scan_append v, ?_⟩
  rw [hu.scan_append, hcomment, hbefore, List.map_cons, List.map_map, List.map_map, shift,
    Nat.zero_add]
  exact congrArg (scan u ++ .tag ⟨.comment, c.trim⟩ u.length :: ·)
    (List.map_congr_left fun t _ => (hbehind t).symm)

namespace Template

variable {hasher : Hasher} {u c : Text}

/-- A source is compiled from its tokens alone. -/
theorem compileWith_eq_ofTokens (source : Text) :
    compileWith hasher source =
      (Builder.ofTokens hasher (Token.scan source)).map fun blocks => ⟨blocks.toList⟩ := rfl

/-- A comment in a source moves what is behind it, and changes nothing else. -/
theorem compileWith_comment_eq (hu : Token.Sealed u) (hend : Text.FirstAfter Tag.doubleClose c)
    (v : Text) : compileWith hasher (u ++ (Tag.signed '!' c ++ v)) =
      (compileWith hasher (u ++ v)).mapError
        (CompileError.relocate (Text.offsetAfter u.length (Tag.signed '!' c).length)) := by
  obtain ⟨ts, us, hwithout, hwith⟩ := hu.scan_comment hend v
  rw [compileWith_eq_ofTokens, compileWith_eq_ofTokens, hwith, Builder.ofTokens_comment rfl,
    ← List.map_append, Builder.ofTokens_relocate, ← hwithout]
  cases Builder.ofTokens hasher (Token.scan (u ++ v)) <;> rfl

/-- A comment may stand anywhere behind a text that is read alike whatever follows: with it and
without it the same blocks are built, or the same error is reported and only offsets behind the
comment differ. -/
theorem compileWith_comment (hu : Token.Sealed u) (hinside : ¬ Tag.doubleClose <:+: c)
    (hlast : c.getLast? ≠ some Tag.closeBrace) (hasher : Hasher) (v : Text) :
    (∃ t, compileWith hasher (u ++ (Tag.signed '!' c ++ v)) = .ok t ∧
        compileWith hasher (u ++ v) = .ok t) ∨
      ∃ e, compileWith hasher (u ++ v) = .error e ∧
        compileWith hasher (u ++ (Tag.signed '!' c ++ v)) = .error
          (e.relocate (Text.offsetAfter u.length (Tag.signed '!' c).length)) := by
  have hend : Text.FirstAfter Tag.doubleClose c := .of_pair hinside hlast
  rw [compileWith_comment_eq hu hend v]
  cases compileWith hasher (u ++ v) with
  | ok t => exact .inl ⟨t, rfl, rfl⟩
  | error e => exact .inr ⟨e, rfl, rfl⟩

/-- A comment with opening braces in it, in a section that is closed behind it, or by the wrong
name. -/
theorem compileWith_comment_inside :
    let u := Text.of "a\x7b\x7b#s\x7d\x7db"
    let c := Text.of " \x7b\x7b\x7bx\x7d\n"
    let v := Text.of "\x7b\x7b\x7by\x7d\x7d\x7d\x7b\x7b/s\x7d\x7d"
    let t : Template := ⟨[⟨Text.of "a", .opening false ⟨Text.of "s", 0⟩ 2⟩,
      ⟨Text.of "b", .print false ⟨Text.of "y", 0⟩⟩, ⟨[], .closing⟩]⟩
    Token.Sealed u ∧ ¬ Tag.doubleClose <:+: c ∧ c.getLast? ≠ some Tag.closeBrace ∧
      compileWith (.constant 0) (u ++ v) = .ok t ∧
      compileWith (.constant 0) (u ++ (Tag.signed '!' c ++ v)) = .ok t ∧
      compileWith (.constant 0) (u ++ (Tag.signed '!' c ++ Text.of "\x7b\x7b/t\x7d\x7d")) =
        .error (.malformed ⟨.mismatch (Text.of "t") (Text.of "s") 1, 20⟩) := by
  intro u c v t
  have hu : Token.Sealed u := ⟨by decide, by decide⟩
  have hinside : ¬ Tag.doubleClose <:+: c := by decide
  have hlast : c.getLast? ≠ some Tag.closeBrace := by decide
  have haccepted : compileWith (.constant 0) (u ++ v) = .ok t := by decide
  have hrefused : compileWith (.constant 0) (u ++ Text.of "\x7b\x7b/t\x7d\x7d") =
      .error (.malformed ⟨.mismatch (Text.of "t") (Text.of "s") 1, 8⟩) := by decide
  refine ⟨hu, hinside, hlast, haccepted, ?_, ?_⟩
  · rcases compileWith_comment hu hinside hlast (.constant 0) v with ⟨t', hwith, hwithout⟩ | ⟨e, he, -⟩
    · rw [haccepted] at hwithout
      cases hwithout
      exact hwith
    · rw [haccepted] at he
      cases he
  · rcases compileWith_comment hu hinside hlast (.constant 0) (Text.of "\x7b\x7b/t\x7d\x7d") with
      ⟨t', -, hwithout⟩ | ⟨e, he, hwith⟩
    · rw [hrefused] at hwithout
      cases hwithout
    · rw [hrefused] at he
      cases he
      exact hwith

end Template

end Stencil
