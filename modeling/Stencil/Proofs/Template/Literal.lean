import Mathlib.Algebra.GroupWithZero.Nat
import Mathlib.Data.List.Forall2
import Stencil.Proofs.Template.Grammar
import Stencil.Proofs.Template.Sealed
import Stencil.Proofs.Template.Spans
import Stencil.Text.Utf8

namespace Stencil

/-- A code point counts the bytes of its UTF-8 form, and a surrogate, which has none, counts
three. -/
theorem CodePoint.utf8Size_eq (c : CodePoint) :
    c.utf8Size = if c.isSurrogate then 3 else (Utf8.encodeChar c).length := by
  have hsurrogate : c.isSurrogate = true → ¬ c.val < 0x800 ∧ c.val < 0x10000 := by
    simp only [isSurrogate, Bool.and_eq_true, decide_eq_true_eq]
    omega
  unfold utf8Size Utf8.encodeChar
  by_cases h : c.isSurrogate = true
  · have hrange := hsurrogate h
    rw [if_pos h, if_neg (by omega), if_neg hrange.1, if_pos hrange.2]
  · rw [if_neg h]
    simp only
    split
    · rfl
    · split
      · rfl
      · split <;> rfl

theorem Text.utf8Size_eq_sum (t : Text) : t.utf8Size = (t.map CodePoint.utf8Size).sum := by
  induction t with
  | nil => rfl
  | cons c t ih => rw [utf8Size_cons, ih, List.map_cons, List.sum_cons]

/-- A text that opens no tag, whatever follows. -/
structure Text.Unopened (s : Text) : Prop where
  inside : ¬ Tag.doubleOpen <:+: s
  ending : s.getLast? ≠ some Tag.openBrace

namespace Text

theorem Unopened.nil : Unopened [] := ⟨by simp [Tag.doubleOpen], by simp⟩

/-- A text that holds no opening braces and does not end in one makes none with what follows. -/
theorem Unopened.doubleOpen_append {s t : Text} (hs : s.Unopened)
    (ht : ¬ Tag.doubleOpen <:+: t) : ¬ Tag.doubleOpen <:+: s ++ t := by
  obtain ⟨hinside, hending⟩ := hs
  induction s with
  | nil => exact ht
  | cons c s ih =>
    rw [List.infix_cons_iff, not_or] at hinside
    rw [List.cons_append, List.infix_cons_iff, not_or]
    refine ⟨?_, ih hinside.2 (Token.getLast?_ne_of_append (s := [c]) hending)⟩
    -- Of the two braces the second one would be the first of `t` only if `s` ended in the other.
    have hstarts := hinside.1
    rw [Token.doubleOpen_prefix_cons_iff] at hstarts ⊢
    cases s with
    | nil =>
      rintro ⟨rfl, -⟩
      exact hending rfl
    | cons d s => exact hstarts

theorem Unopened.append {s t : Text} (hs : s.Unopened) (ht : t.Unopened) : (s ++ t).Unopened := by
  refine ⟨hs.doubleOpen_append ht.inside, fun hlast => ?_⟩
  rw [List.getLast?_append, Option.or_eq_some_iff] at hlast
  rcases hlast with hlast | ⟨-, hlast⟩
  · exact ht.ending hlast
  · exact hs.ending hlast

end Text

namespace Placed

/-- Two opening braces that begin in a text without tags are not closed. -/
theorem Untagged.not_closed {before inside rest r : Text} (huntagged : Untagged (before ++ inside) rest)
    (hne : inside ≠ []) (hopen : inside ++ rest = Tag.doubleOpen ++ r) : ¬ Tag.doubleClose <:+: r := by
  intro hclose
  obtain ⟨t, piece, behind, hpiece, hwritten⟩ := Tag.exists_written_of_closed hclose
  exact huntagged before inside t piece behind rfl hne (hopen.trans hpiece) hwritten

/-- The text before a tag opens none. -/
theorem Untagged.unopened {s piece rest : Text} {t : Tag} (huntagged : Untagged s (piece ++ rest))
    (hwritten : Tag.Written t piece rest) : s.Unopened := by
  obtain ⟨inner, rfl⟩ := hwritten.eq_braces
  constructor
  · rintro ⟨before, behind, rfl⟩
    rw [List.append_assoc] at huntagged
    refine huntagged.not_closed (by simp [Tag.doubleOpen]) (List.append_assoc _ _ _) ?_
    exact ⟨behind ++ (Tag.doubleOpen ++ inner), rest, by simp⟩
  · intro hlast
    obtain ⟨before, rfl⟩ := List.getLast?_eq_some_iff.1 hlast
    refine huntagged.not_closed (r := Tag.openBrace :: inner ++ Tag.doubleClose ++ rest) (by simp)
      (by simp [Tag.doubleOpen]) ?_
    exact ⟨Tag.openBrace :: inner, rest, rfl⟩

end Placed

/-- A tag with the text before it. -/
structure Segment where
  text : Text
  tag : Tag
deriving DecidableEq

namespace Segment

open Placed

/-- A text is cut at its tags, the leftmost one first, into segments and the text behind them. -/
inductive Cuts : Text → List Segment → (last : Text) → Prop where
  | last {s : Text} (huntagged : Untagged s []) : Cuts s [] s
  | tag {s piece rest last : Text} {t : Tag} {segs : List Segment}
      (huntagged : Untagged s (piece ++ rest)) (hwritten : Tag.Written t piece rest)
      (hrest : Cuts rest segs last) : Cuts (s ++ (piece ++ rest)) (⟨s, t⟩ :: segs) last

/-- The segments without comments, where some text waits for the first of them: the text before a
comment goes to the next segment. -/
def joined : (pending : Text) → List Segment → List Segment
  | _, [] => []
  | pending, s :: segs =>
    if s.tag.kind = .comment then joined (pending ++ s.text) segs
    else ⟨pending ++ s.text, s.tag⟩ :: joined [] segs

/-- The text behind the last segment that is no comment. -/
def remainder (last : Text) : (pending : Text) → List Segment → Text
  | pending, [] => pending ++ last
  | pending, s :: segs =>
    if s.tag.kind = .comment then remainder last (pending ++ s.text) segs else remainder last [] segs

/-- The segments of a text that is split at its tags. -/
theorem cuts_of_splits {offset start : Nat} {source tail : Text} {ps : List Placed}
    (hsplits : Splits offset source ps start tail) :
    ∃ segs, Cuts source segs tail ∧ segs.map tag = ps.map Placed.tag := by
  induction hsplits with
  | tail huntagged => exact ⟨[], .last huntagged, rfl⟩
  | tag huntagged hwritten hrest ih =>
    obtain ⟨segs, hcuts, htags⟩ := ih
    exact ⟨_, .tag huntagged hwritten hcuts, congrArg (_ :: ·) htags⟩

/-- Every source is cut into segments, each a text with the tag behind it, and a last text. -/
theorem exists_cuts (source : Text) : ∃ segs last, Cuts source segs last := by
  obtain ⟨ps, start, tail, hsplits⟩ := exists_splits 0 source
  obtain ⟨segs, hcuts, -⟩ := cuts_of_splits hsplits
  exact ⟨segs, tail, hcuts⟩

/-- The text before a tag neither holds opening braces nor ends in one: the tag would start
there. -/
theorem Cuts.unopened {source last : Text} {segs : List Segment} (hcuts : Cuts source segs last) :
    ∀ s ∈ segs, s.text.Unopened := by
  induction hcuts with
  | last huntagged => simp
  | tag huntagged hwritten hrest ih =>
    exact List.forall_mem_cons.2 ⟨huntagged.unopened hwritten, ih⟩

/-- Joining segments moves text from one to another and loses none. -/
theorem text_joined (last pending : Text) (segs : List Segment) :
    (joined pending segs).flatMap text ++ remainder last pending segs =
      pending ++ segs.flatMap text ++ last := by
  induction segs generalizing pending with
  | nil => simp [joined, remainder]
  | cons s segs ih =>
    rw [joined, remainder]
    split
    · simp [ih]
    · rw [List.flatMap_cons, List.append_assoc, ih]
      simp

/-- Texts that open no tag still open none when they are joined around comments. -/
theorem unopened_joined {pending : Text} {segs : List Segment} (hpending : pending.Unopened)
    (hsegs : ∀ s ∈ segs, s.text.Unopened) : ∀ s ∈ joined pending segs, s.text.Unopened := by
  induction segs generalizing pending with
  | nil => simp [joined]
  | cons s segs ih =>
    obtain ⟨hs, hsegs⟩ := List.forall_mem_cons.1 hsegs
    rw [joined]
    split
    · exact ih (hpending.append hs) hsegs
    · exact List.forall_mem_cons.2 ⟨hpending.append hs, ih .nil hsegs⟩

/-- Texts that are joined where a comment stood make no opening braces. -/
theorem doubleOpen_remainder {last pending : Text} {segs : List Segment} (hpending : pending.Unopened)
    (hsegs : ∀ s ∈ segs, s.text.Unopened) (hlast : ¬ Tag.doubleOpen <:+: last) :
    ¬ Tag.doubleOpen <:+: remainder last pending segs := by
  induction segs generalizing pending with
  | nil => exact hpending.doubleOpen_append hlast
  | cons s segs ih =>
    obtain ⟨hs, hsegs⟩ := List.forall_mem_cons.1 hsegs
    rw [remainder]
    split
    · exact ih (hpending.append hs) hsegs
    · exact ih .nil hsegs

end Segment

namespace Block

/-- A block holds the text and the tag of a segment. -/
inductive Carries : Block → Segment → Prop where
  | print {html : Text} {escaped : Bool} {name : FieldName} {t : Stencil.Tag}
      (hkind : t.kind = .print escaped) (hname : name.text = t.name) :
      Carries ⟨html, .print escaped name⟩ ⟨html, t⟩
  | opening {html : Text} {inverted : Bool} {name : FieldName} {count : Nat} {t : Stencil.Tag}
      (hkind : t.kind = .opening inverted) (hname : name.text = t.name) :
      Carries ⟨html, .opening inverted name count⟩ ⟨html, t⟩
  | closing {html : Text} {t : Stencil.Tag} (hkind : t.kind = .closing) :
      Carries ⟨html, .closing⟩ ⟨html, t⟩

theorem Carries.html_eq {b : Block} {s : Segment} (hcarries : b.Carries s) : b.html = s.text := by
  cases hcarries <;> rfl

theorem Carries.withChildren {b : Block} {s : Segment} (hcarries : b.Carries s) (count : Nat) :
    (b.withChildren count).Carries s := by
  cases hcarries with
  | print hkind hname => exact .print hkind hname
  | opening hkind hname => exact .opening hkind hname
  | closing hkind => exact .closing hkind

/-- Telling an opening block how many blocks belong to it changes no text and no name. -/
theorem carries_modify {bs : List Block} {segs : List Segment} (hcarry : List.Forall₂ Carries bs segs)
    (i count : Nat) : List.Forall₂ Carries (bs.modify i (Block.withChildren count)) segs := by
  induction hcarry generalizing i with
  | nil =>
    rw [List.modify_nil]
    exact .nil
  | cons hcarries hcarry ih =>
    cases i with
    | zero => exact .cons (hcarries.withChildren count) hcarry
    | succ i => exact .cons hcarries (ih i)

theorem unopened_of_carries {bs : List Block} {segs : List Segment}
    (hcarry : List.Forall₂ Carries bs segs) (hsegs : ∀ s ∈ segs, s.text.Unopened) :
    ∀ b ∈ bs, b.html.Unopened := by
  induction hcarry with
  | nil => simp
  | cons hcarries hcarry ih =>
    obtain ⟨hs, hsegs⟩ := List.forall_mem_cons.1 hsegs
    exact List.forall_mem_cons.2 ⟨hcarries.html_eq ▸ hs, ih hsegs⟩

/-- The texts of the blocks are those of the segments, one behind the other. -/
theorem html_of_carries {bs : List Block} {segs : List Segment}
    (hcarry : List.Forall₂ Carries bs segs) : bs.flatMap Block.html = segs.flatMap Segment.text := by
  induction hcarry with
  | nil => rfl
  | cons hcarries hcarry ih => rw [List.flatMap_cons, List.flatMap_cons, hcarries.html_eq, ih]

theorem eq_of_mem_behindTags {b : Block} {html : Text} (hb : b ∈ behindTags html) :
    b = ⟨html, .tail⟩ := by
  unfold behindTags at hb
  split at hb
  · cases hb
  · exact List.mem_singleton.1 hb

theorem html_behindTags (html : Text) : (behindTags html).flatMap Block.html = html := by
  unfold behindTags
  split
  · rename_i hempty
    exact hempty.symm
  · simp

end Block

namespace Builder

variable {hasher : Hasher} {b b' : Builder}

theorem reads_chars_iff {s : Text} {ts : List Token} :
    Reads hasher b (s.map .char ++ ts) b' ↔
      Reads hasher { b with pending := s.reverse ++ b.pending } ts b' := by
  rw [← foldlM_take_eq_ok_iff, foldlM_take_chars, foldlM_take_eq_ok_iff]

/-- The blocks so far hold these segments. -/
def Holds (b : Builder) (done : List Segment) : Prop :=
  List.Forall₂ Block.Carries b.blocks.toList done

/-- A builder that pushes the block of a tag holds one segment more. -/
theorem Holds.push {done : List Segment} (hholds : b.Holds done) {tag : Block.Tag} {t : Tag}
    (hcarries : Block.Carries ⟨b.pending.reverse, tag⟩ ⟨b.pending.reverse, t⟩) :
    (b.push tag).Holds (done ++ [⟨b.pending.reverse, t⟩]) := by
  unfold Holds Builder.push
  rw [Array.toList_push]
  exact List.rel_append hholds (.cons hcarries .nil)

/-- What a tag adds to the blocks: a comment nothing, every other one a block with the text that
waits. -/
theorem Step.holds {t : Tag} {offset : Nat} (hstep : Step hasher b (.tag t offset) b')
    {done : List Segment} (hholds : b.Holds done) :
    (t.kind = .comment ∧ b' = b) ∨
      (t.kind ≠ .comment ∧ b'.pending = [] ∧ b'.Holds (done ++ [⟨b.pending.reverse, t⟩])) := by
  cases hstep with
  | comment hkind => exact .inl ⟨hkind, rfl⟩
  | print hkind hname hhash =>
    exact .inr ⟨by simp [hkind], rfl, hholds.push (.print hkind rfl)⟩
  | opening hkind hname hhash =>
    exact .inr ⟨by simp [hkind], rfl, hholds.push (.opening hkind rfl)⟩
  | @closing _ _ o rest hkind hname hopened hsame =>
    refine .inr ⟨by simp [hkind], rfl, ?_⟩
    unfold Holds pushClosing
    rw [Array.toList_modify]
    exact Block.carries_modify (hholds.push (.closing hkind)) _ _

/-- Reading a source that is cut at its tags. -/
theorem Reads.holds {source last : Text} {segs done : List Segment} {offset : Nat}
    (hreads : Reads hasher b (Token.scanFrom 0 offset source) b')
    (hcuts : Segment.Cuts source segs last) (hholds : b.Holds done) :
    b'.Holds (done ++ Segment.joined b.pending.reverse segs) ∧
      b'.pending.reverse = Segment.remainder last b.pending.reverse segs ∧
      ¬ Tag.doubleOpen <:+: last := by
  induction hcuts generalizing b done offset with
  | @last s huntagged =>
    by_cases hopen : Tag.doubleOpen <:+: s
    · obtain ⟨before, rest, rfl, hfirst⟩ := Text.exists_firstAfter hopen
      rw [List.append_assoc] at hreads huntagged
      rw [Placed.scanFrom_braces offset huntagged hfirst] at hreads
      exact absurd (by simp) (hreads.not_mem_unclosed (offset + before.length))
    · rw [Placed.scanFrom_of_unopened offset hopen, ← List.append_nil (s.map _),
        reads_chars_iff] at hreads
      cases hreads
      refine ⟨?_, ?_, hopen⟩
      · rw [Segment.joined, List.append_nil]
        exact hholds
      · simp [Segment.remainder]
  | @tag s piece rest last t segs huntagged hwritten hrest ih =>
    rw [Placed.scanFrom_untagged offset huntagged hwritten, reads_chars_iff] at hreads
    cases hreads with
    | cons hstep hreads =>
      have hwaiting : (s.reverse ++ b.pending).reverse = b.pending.reverse ++ s := by simp
      have hdone : Holds _ done := hholds
      rcases hstep.holds hdone with ⟨hkind, rfl⟩ | ⟨hkind, hpending, hholds⟩
      · have hbehind := ih hreads hholds
        rw [hwaiting] at hbehind
        simpa [Segment.joined, Segment.remainder, hkind] using hbehind
      · have hbehind := ih hreads hholds
        rw [hpending, hwaiting] at hbehind
        simpa [Segment.joined, Segment.remainder, hkind] using hbehind

end Builder

namespace Template

/-- The blocks hold the text of a source that is cut into some segments and a last text. -/
structure Conserves (t : Template) (segs : List Segment) (last : Text) : Prop where
  /-- The texts of the blocks are the source without its tags. -/
  html : t.blocks.flatMap Block.html = segs.flatMap Segment.text ++ last
  /-- Every tag but a comment has its block, and text behind the last of these has its own. -/
  blocks : ∃ bs, List.Forall₂ Block.Carries bs (Segment.joined [] segs) ∧
    t.blocks = bs ++ Block.behindTags (Segment.remainder last [] segs)
  /-- A lone surrogate counts three bytes, every other code point those of its UTF-8 form. -/
  size : t.literalSize = ((segs.flatMap Segment.text ++ last).map fun c =>
    if c.isSurrogate then 3 else (Utf8.encodeChar c).length).sum
  braces : ∀ b ∈ t.blocks, ¬ Tag.doubleOpen <:+: b.html
  ending : ∀ b ∈ t.blocks, b.tag ≠ .tail → b.html.getLast? ≠ some Tag.openBrace

/-- The literal size of a template is the size of the texts of its blocks in UTF-8, three bytes for
a surrogate. -/
theorem literalSize_eq (t : Template) :
    t.literalSize = ((t.blocks.flatMap Block.html).map fun c =>
      if c.isSurrogate then 3 else (Utf8.encodeChar c).length).sum := by
  have hsize : t.literalSize = Text.utf8Size (t.blocks.flatMap Block.html) := by
    obtain ⟨bs⟩ := t
    induction bs with
    | nil => rfl
    | cons b bs ih =>
      rw [List.flatMap_cons, Text.utf8Size_append, ← ih]
      rfl
  rw [hsize, Text.utf8Size_eq_sum]
  exact congrArg List.sum (List.map_congr_left fun c _ => c.utf8Size_eq)

/-- Every source is cut at its tags, and the blocks of one that compiles hold its text without
them. -/
theorem conserves_of_compile {hasher : Hasher} {source : Text} {t : Template}
    (hcompile : compileWith hasher source = .ok t) :
    (∃ segs last, Segment.Cuts source segs last) ∧
      ∀ segs last, Segment.Cuts source segs last → t.Conserves segs last := by
  refine ⟨Segment.exists_cuts source, fun segs last hcuts => ?_⟩
  obtain ⟨b, hreads, -, rfl⟩ := compileWith_eq_ok_iff.1 hcompile
  have hnone : Builder.Holds {} [] := .nil
  obtain ⟨hholds, hpending, hlast⟩ := hreads.holds hcuts hnone
  change List.Forall₂ Block.Carries b.blocks.toList (Segment.joined [] segs) at hholds
  change b.pending.reverse = Segment.remainder last [] segs at hpending
  have hblocks := b.finished_eq
  rw [hpending] at hblocks
  have hhtml : b.finished.toList.flatMap Block.html = segs.flatMap Segment.text ++ last := by
    rw [hblocks, List.flatMap_append, Block.html_of_carries hholds, Block.html_behindTags,
      Segment.text_joined, List.nil_append]
  have hunopened : ∀ c ∈ b.blocks.toList, c.html.Unopened :=
    Block.unopened_of_carries hholds (Segment.unopened_joined .nil hcuts.unopened)
  refine ⟨hhtml, ⟨_, hholds, hblocks⟩, ?_, fun c hc => ?_, fun c hc htag => ?_⟩
  · rw [literalSize_eq, hhtml]
  · rw [hblocks, List.mem_append] at hc
    rcases hc with hc | hc
    · exact (hunopened c hc).inside
    · rw [Block.eq_of_mem_behindTags hc]
      exact Segment.doubleOpen_remainder .nil hcuts.unopened hlast
  · rw [hblocks, List.mem_append] at hc
    rcases hc with hc | hc
    · exact (hunopened c hc).ending
    · rw [Block.eq_of_mem_behindTags hc] at htag
      exact absurd rfl htag

/-- Comments before a variable and at the end: the braces around the first one stay apart. -/
theorem conserves_of_compile_comments :
    compileWith (Hasher.constant 0)
        (Text.of "a\x7b\x7b! c \x7d\x7d\x7bb\x7b\x7b x \x7d\x7dc\x7b\x7b!\x7d\x7dd") =
        .ok ⟨[⟨Text.of "a\x7bb", .print true ⟨Text.of "x", 0⟩⟩, ⟨Text.of "cd", .tail⟩]⟩ ∧
      (Template.mk [⟨Text.of "a\x7bb", .print true ⟨Text.of "x", 0⟩⟩,
        ⟨Text.of "cd", .tail⟩]).Conserves
          [⟨Text.of "a", ⟨.comment, Text.of "c"⟩⟩, ⟨Text.of "\x7bb", ⟨.print true, Text.of "x"⟩⟩,
            ⟨Text.of "c", ⟨.comment, []⟩⟩] (Text.of "d") := by
  generalize hsource :
    Text.of "a\x7b\x7b! c \x7d\x7d\x7bb\x7b\x7b x \x7d\x7dc\x7b\x7b!\x7d\x7dd" = source
  have hcompile : compileWith (Hasher.constant 0) source =
      .ok ⟨[⟨Text.of "a\x7bb", .print true ⟨Text.of "x", 0⟩⟩, ⟨Text.of "cd", .tail⟩]⟩ := by
    subst hsource
    decide
  have hcuts : Segment.Cuts (Text.of "a" ++ (Block.tagSource "!" (Text.of "c") ++
      (Text.of "\x7bb" ++ (Tag.write ⟨.print true, Text.of "x"⟩ ++
        (Text.of "c" ++ (Text.of "\x7b\x7b!\x7d\x7d" ++ Text.of "d"))))))
      [⟨Text.of "a", ⟨.comment, Text.of "c"⟩⟩, ⟨Text.of "\x7bb", ⟨.print true, Text.of "x"⟩⟩,
        ⟨Text.of "c", ⟨.comment, []⟩⟩] (Text.of "d") := by
    have huntagged : ∀ rest, Placed.Untagged [] rest := Placed.untagged_nil
    refine .tag ((huntagged _).cons (by decide)) (Tag.written_tagSource _ rfl (by decide) (by decide)
      (by decide)) (.tag (((huntagged _).cons (by decide)).cons (by decide))
        (Tag.Readable.written ⟨by decide, by decide⟩ (by decide) _) (.tag
          ((huntagged _).cons (by decide)) ?_ (.last ((huntagged _).cons (by decide)))))
    exact @Tag.Written.signed '!' _ [] _ (by decide) (Text.FirstAfter.nil _)
  have hpieces : source = Text.of "a" ++ (Block.tagSource "!" (Text.of "c") ++
      (Text.of "\x7bb" ++ (Tag.write ⟨.print true, Text.of "x"⟩ ++
        (Text.of "c" ++ (Text.of "\x7b\x7b!\x7d\x7d" ++ Text.of "d"))))) := by
    subst hsource
    decide
  exact ⟨hcompile, (conserves_of_compile hcompile).2 _ _ (hpieces ▸ hcuts)⟩

end Template

end Stencil
