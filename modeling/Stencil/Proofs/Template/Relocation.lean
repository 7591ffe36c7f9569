import Stencil.Proofs.Template.Sealed
import Stencil.Proofs.Template.Step

namespace Stencil

namespace TemplateError

/-- The cause in a source with as many more code points in front. -/
def Cause.shift (count : Nat) : Cause → Cause
  | mismatch name opened openedAt => mismatch name opened (openedAt + count)
  | cause => cause

/-- The same error behind as many more code points. -/
def shift (count : Nat) (e : TemplateError) : TemplateError :=
  ⟨e.cause.shift count, e.offset + count⟩

end TemplateError

namespace CompileError

/-- The same refusal behind as many more code points. -/
def shift (count : Nat) : CompileError → CompileError
  | malformed e => malformed (e.shift count)
  | unhashable name => unhashable name

theorem map_hashed_eq_error_iff {α : Type} {hasher : Hasher} {name : Text} {f : FieldName → α}
    {e : CompileError} :
    (hashed hasher name).map f = .error e ↔ hasher name = none ∧ e = .unhashable name := by
  unfold hashed
  cases hasher name <;> simp [Except.map, eq_comm]

end CompileError

namespace Block

/-- The blocks with more literal text before that of the first one. -/
def lead (t : Text) : List Block → List Block
  | [] => []
  | b :: bs => { b with html := t ++ b.html } :: bs

@[simp] theorem length_lead (t : Text) (bs : List Block) : (lead t bs).length = bs.length := by
  cases bs <;> rfl

@[simp] theorem lead_nil (bs : List Block) : lead [] bs = bs := by cases bs <;> rfl

/-- Text and counts are put in independently of one another. -/
theorem lead_modify (t : Text) (bs : List Block) (i count : Nat) :
    lead t (bs.modify i (withChildren count)) = (lead t bs).modify i (withChildren count) := by
  cases bs with
  | nil => cases i <;> rfl
  | cons b bs => cases i <;> rfl

theorem modify_append_right (f : Block → Block) (as bs : List Block) (i : Nat) :
    (as ++ bs).modify (i + as.length) f = as ++ bs.modify i f := by
  induction as with
  | nil => rfl
  | cons a as ih =>
    rw [List.cons_append, List.length_cons, ← Nat.add_assoc, List.modify_succ_cons, ih]
    rfl

end Block

namespace Builder

/-- The builder that has read something behind what the first one has read, whose text had as many
code points; the second one has read the same from the start of a source. -/
def behind (a : Builder) (count : Nat) (b : Builder) : Builder where
  blocks := a.blocks ++ (Block.lead a.pending.reverse b.blocks.toList).toArray
  opened := b.opened.map (fun o => ⟨o.index + a.blocks.size, o.name, o.offset + count⟩) ++ a.opened
  pending := if b.blocks = #[] then b.pending ++ a.pending else b.pending

variable {hasher : Hasher} {a b b' : Builder} {count : Nat}

theorem behind_start (a : Builder) (count : Nat) : a.behind count {} = a := by
  simp [behind, Block.lead]

/-- A block is pushed behind those that were there before. -/
theorem push_behind (a : Builder) (count : Nat) (b : Builder) (tag : Block.Tag) :
    (a.behind count b).push tag = a.behind count (b.push tag) := by
  obtain ⟨⟨blocks⟩, opened, pending⟩ := b
  cases blocks with
  | nil => simp [behind, push, Block.lead]
  | cons c blocks => simp [behind, push, Block.lead]

theorem size_behind (a : Builder) (count : Nat) (b : Builder) :
    (a.behind count b).blocks.size = b.blocks.size + a.blocks.size := by
  simp [behind, Nat.add_comm]

/-- A section that is opened behind other blocks counts from where these end. -/
theorem openSection_behind (a : Builder) (count : Nat) (b : Builder) (inverted : Bool)
    (name : FieldName) (offset : Nat) :
    (a.behind count b).openSection inverted name (offset + count) =
      a.behind count (b.openSection inverted name offset) := by
  have hpush := push_behind a count b (.opening inverted name 0)
  rw [openSection, hpush, size_behind, openSection]
  simp [behind, push]

/-- The section that is closed is told a number that no blocks before it count in. -/
theorem pushClosing_behind (a : Builder) (count : Nat) (b : Builder) (index : Nat) :
    (a.behind count b).pushClosing (index + a.blocks.size) =
      a.blocks ++ (Block.lead a.pending.reverse (b.pushClosing index).toList).toArray := by
  have hpush := push_behind a count b .closing
  have hsize := size_behind a count (b.push .closing)
  have hcount : (b.push .closing).blocks.size + a.blocks.size - (index + a.blocks.size) - 1 =
      (b.push .closing).blocks.size - index - 1 := by omega
  have hlength : a.blocks.size = a.blocks.toList.length := Array.length_toList.symm
  refine Array.toList_inj.1 ?_
  rw [pushClosing, hpush, hsize, hcount, pushClosing, Array.toList_modify, Array.toList_modify,
    Block.lead_modify, hlength]
  simp only [behind, Array.toList_append]
  exact Block.modify_append_right _ _ _ _

theorem size_pushClosing (b : Builder) (index : Nat) :
    (b.pushClosing index).size = b.blocks.size + 1 := by
  simp [pushClosing, push]

/-- A step is the same step behind whatever was read before. -/
theorem Step.behind {t : Token} (hstep : Step hasher b t b') (a : Builder) (count : Nat) :
    Step hasher (a.behind count b) (t.shift count) (a.behind count b') := by
  cases hstep with
  | char c =>
    have hchar : a.behind count { b with pending := c :: b.pending } =
        { a.behind count b with pending := c :: (a.behind count b).pending } := by
      simp only [Builder.behind]
      split <;> rfl
    rw [hchar]
    exact .char c
  | comment hkind => exact .comment hkind
  | print hkind hname hhash =>
    rw [← push_behind]
    exact .print hkind hname hhash
  | opening hkind hname hhash =>
    rw [← openSection_behind]
    exact .opening hkind hname hhash
  | @closing t offset o rest hkind hname hopened hsame =>
    have hblocks : b.pushClosing o.index ≠ #[] := by
      intro hempty
      have hsize := size_pushClosing b o.index
      simp [hempty] at hsize
    have hclosed : a.behind count ⟨b.pushClosing o.index, rest, []⟩ =
        ⟨(a.behind count b).pushClosing (o.index + a.blocks.size),
          rest.map (fun o => ⟨o.index + a.blocks.size, o.name, o.offset + count⟩) ++ a.opened,
          []⟩ := by
      rw [pushClosing_behind]
      simp [Builder.behind, hblocks]
    have hinside : (a.behind count b).opened =
        ⟨o.index + a.blocks.size, o.name, o.offset + count⟩ ::
          (rest.map (fun o => ⟨o.index + a.blocks.size, o.name, o.offset + count⟩) ++ a.opened) := by
      simp [Builder.behind, hopened]
    rw [hclosed]
    exact .closing hkind hname hinside hsame

/-- What is read by a fresh builder is read behind whatever was read before: blocks and open
sections come behind those that are there, and indices and offsets are moved. -/
theorem Reads.behind {ts : List Token} (hreads : Reads hasher b ts b') (a : Builder)
    (count : Nat) : Reads hasher (a.behind count b) (ts.map (Token.shift count))
      (a.behind count b') := by
  induction hreads with
  | nil => exact .nil _
  | cons hstep _ ih => exact .cons (hstep.behind a count) ih

/-- Tokens are read one after another. -/
theorem Reads.append {b'' : Builder} {ts us : List Token} (hts : Reads hasher b ts b')
    (hus : Reads hasher b' us b'') : Reads hasher b (ts ++ us) b'' := by
  induction hts with
  | nil => exact hus
  | cons hstep _ ih => exact .cons hstep (ih hus)

/-- A closing tag that is refused is refused behind other blocks too, as long as no section was open
there. -/
theorem close_behind_of_error (ha : a.opened = []) {name : Text} {offset : Nat} {e : CompileError}
    (hclose : b.close name offset = .error e) :
    (a.behind count b).close name (offset + count) = .error (e.shift count) := by
  unfold close at hclose ⊢
  cases hopened : b.opened with
  | nil =>
    rw [hopened] at hclose
    cases hclose
    simp [behind, hopened, ha, CompileError.fail, CompileError.shift, TemplateError.shift,
      TemplateError.Cause.shift]
  | cons o rest =>
    rw [hopened] at hclose
    by_cases hsame : o.name = name
    · simp [hsame] at hclose
    · simp only [ne_eq, hsame, not_false_eq_true, if_true] at hclose
      cases hclose
      simp [behind, hopened, hsame, CompileError.fail, CompileError.shift, TemplateError.shift,
        TemplateError.Cause.shift]

/-- A tag that cannot stand where it stands cannot stand there behind other text either; only a
closing tag depends on the sections that were open before. -/
theorem take_behind_of_error (ha : a.opened = []) {t : Token} {e : CompileError}
    (htake : b.take hasher t = .error e) :
    (a.behind count b).take hasher (t.shift count) = .error (e.shift count) := by
  cases t with
  | char c => cases htake
  | unclosed offset =>
    cases htake
    rfl
  | tag t offset =>
    simp only [take, takeTag, Token.shift] at htake ⊢
    split at htake
    · rename_i hempty
      cases htake
      rw [if_pos hempty]
      rfl
    · rename_i hnamed
      rw [if_neg hnamed]
      cases hkind : t.kind with
      | comment => simp [hkind] at htake
      | closing =>
        rw [hkind] at htake
        exact close_behind_of_error ha htake
      | print escaped =>
        rw [hkind] at htake
        obtain ⟨hhash, rfl⟩ := CompileError.map_hashed_eq_error_iff.1 htake
        exact CompileError.map_hashed_eq_error_iff.2 ⟨hhash, rfl⟩
      | opening inverted =>
        rw [hkind] at htake
        obtain ⟨hhash, rfl⟩ := CompileError.map_hashed_eq_error_iff.1 htake
        exact CompileError.map_hashed_eq_error_iff.2 ⟨hhash, rfl⟩

/-- Tokens that are refused are refused behind other blocks with the same error, its offset moved,
if no section was open before. -/
theorem foldlM_take_behind_of_error (ha : a.opened = []) {ts : List Token} {e : CompileError}
    (hread : ts.foldlM (take hasher) b = .error e) :
    (ts.map (Token.shift count)).foldlM (take hasher) (a.behind count b) =
      .error (e.shift count) := by
  induction ts generalizing b with
  | nil => cases hread
  | cons t ts ih =>
    rw [List.foldlM_cons] at hread
    rw [List.map_cons, List.foldlM_cons]
    cases htake : b.take hasher t with
    | error f =>
      rw [htake] at hread
      cases hread
      rw [take_behind_of_error ha htake]
      rfl
    | ok c =>
      rw [htake] at hread
      have hstep := (take_eq_ok_iff.1 htake).behind a count
      rw [take_eq_ok_iff.2 hstep]
      exact ih hread

/-- A section that is never closed is reported at its moved offset. -/
theorem finish_behind_of_error {e : CompileError} (hfinish : b.finish = .error e) :
    (a.behind count b).finish = .error (e.shift count) := by
  unfold finish at hfinish ⊢
  cases hopened : b.opened with
  | nil => simp [hopened] at hfinish
  | cons o rest =>
    rw [hopened] at hfinish
    cases hfinish
    simp [behind, hopened, CompileError.fail, CompileError.shift, TemplateError.shift,
      TemplateError.Cause.shift]

variable {u v : Text}

/-- Behind a text that is read alike whatever follows, a text is read as it is by itself. -/
theorem Reads.scan_append (hu : Token.Sealed u) (ha : Reads hasher {} (Token.scan u) a)
    (hb : Reads hasher {} (Token.scan v) b) :
    Reads hasher {} (Token.scan (u ++ v)) (a.behind u.length b) := by
  have hbehind := hb.behind a u.length
  rw [behind_start] at hbehind
  rw [hu.scan_append]
  exact ha.append hbehind

theorem foldlM_take_scan_append_of_error (hu : Token.Sealed u)
    (ha : Reads hasher {} (Token.scan u) a) (hopened : a.opened = []) {e : CompileError}
    (hread : (Token.scan v).foldlM (take hasher) {} = .error e) :
    (Token.scan (u ++ v)).foldlM (take hasher) {} = .error (e.shift u.length) := by
  have hbehind : ((Token.scan v).map (Token.shift u.length)).foldlM (take hasher)
      (a.behind u.length {}) = .error (e.shift u.length) :=
    foldlM_take_behind_of_error hopened hread
  rw [behind_start] at hbehind
  rw [hu.scan_append, List.foldlM_append, foldlM_take_eq_ok_iff.2 ha]
  exact hbehind

end Builder

/-- A source that is refused is refused while it is read or when it ends. -/
theorem Template.compileWith_eq_error_iff {hasher : Hasher} {source : Text} {e : CompileError} :
    compileWith hasher source = .error e ↔
      (Token.scan source).foldlM (Builder.take hasher) {} = .error e ∨
        ∃ b, Builder.Reads hasher {} (Token.scan source) b ∧ b.finish = .error e := by
  unfold compileWith Builder.build
  cases hread : (Token.scan source).foldlM (Builder.take hasher) {} with
  | error f =>
    have hnever : ∀ b, ¬ Builder.Reads hasher {} (Token.scan source) b := by
      intro b hreads
      rw [Builder.foldlM_take_eq_ok_iff.2 hreads] at hread
      cases hread
    simp [Bind.bind, Except.bind, Except.map, hnever]
  | ok b =>
    have honly : ∀ c, Builder.Reads hasher {} (Token.scan source) c ↔ b = c := by
      intro c
      rw [← Builder.foldlM_take_eq_ok_iff, hread, Except.ok.injEq]
    simp only [honly, exists_eq_left', reduceCtorEq, false_or, Bind.bind, Except.bind]
    cases b.finish <;> simp [Except.map]

end Stencil
