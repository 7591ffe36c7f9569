import Mathlib.Data.List.Basic
import Stencil.Proofs.Template.Reading
import Stencil.Proofs.Template.Step
import Stencil.Template.Printer

namespace Stencil

namespace Tag

/-- A name between the two blanks it is written with. -/
def padded (name : Text) : Text := Text.of " " ++ name ++ Text.of " "

/-- A tag as the source of a template writes it. -/
def write (t : Tag) : Text :=
  match t.kind with
  | .print true => Block.tagSource "" t.name
  | .print false => Text.of "\x7b\x7b\x7b " ++ t.name ++ Text.of " \x7d\x7d\x7d"
  | .opening inverted => Block.tagSource (if inverted then "^" else "#") t.name
  | .closing => Block.tagSource "/" t.name
  | .comment => []

/-- The blanks around a trimmed name are all that trimming takes. -/
theorem trim_padded {name : Text} (htrimmed : name.trim = name) : (padded name).trim = name := by
  rw [padded, Text.trim_blank_append_blank (by decide) name (by decide), htrimmed]

theorem firstAfter_padded {sep name : Text} (hblank : CodePoint.ofChar ' ' ∉ sep)
    (hname : ¬ sep <:+: name) : Text.FirstAfter sep (padded name) := by
  have hsep : ¬ sep <:+: [] := fun hin => hname (hin.trans List.nil_infix)
  have hbehind : Text.FirstAfter sep (name ++ CodePoint.ofChar ' ' :: []) :=
    (Text.FirstAfter.nil sep).cons_of_not_mem hblank hname
  exact hbehind.cons_of_not_mem hblank hsep

/-- A sign, or none, before a padded name between double braces. -/
theorem tagSource_eq (sign : String) (name : Text) :
    Block.tagSource sign name = doubleOpen ++ (Text.of sign ++ (padded name ++ doubleClose)) := by
  have hopen : Text.of "\x7b\x7b" = doubleOpen := by decide
  have hclose : Text.of " \x7d\x7d" = Text.of " " ++ doubleClose := by decide
  simp only [Block.tagSource, padded, hopen, hclose, List.append_assoc]

/-- A tag with a sign is read from its own source, if its name is trimmed and holds no closing
braces. -/
theorem written_tagSource {name : Text} {kind : Kind} {sign : String} {c : CodePoint} (rest : Text)
    (hsign : Text.of sign = [c]) (hkind : Kind.ofSign? c = some kind)
    (htrimmed : name.trim = name) (hname : ¬ doubleClose <:+: name) :
    Written ⟨kind, name⟩ (Block.tagSource sign name) rest := by
  have hwritten : Written ⟨kind, (padded name).trim⟩ _ rest :=
    .signed hkind (firstAfter_padded (by decide) hname)
  rw [trim_padded htrimmed] at hwritten
  rwa [tagSource_eq, hsign]

/-- A tag that is written out is read again, whatever stands behind it. -/
theorem Readable.written {t : Tag} (hreadable : t.Readable) (hkind : t.kind ≠ .comment)
    (rest : Text) : Written t t.write rest := by
  obtain ⟨kind, name⟩ := t
  obtain ⟨htrimmed, hname⟩ := hreadable
  cases kind with
  | comment => exact absurd rfl hkind
  | closing => exact written_tagSource rest rfl (by decide) htrimmed hname
  | opening inverted =>
    cases inverted with
    | false => exact written_tagSource rest rfl (by decide) htrimmed hname
    | true => exact written_tagSource rest rfl (by decide) htrimmed hname
  | print escaped =>
    cases escaped with
    | false =>
      have hwritten : Written ⟨.print false, (padded name).trim⟩ _ rest :=
        .triple (firstAfter_padded (by decide) hname)
      have hopen : Text.of "\x7b\x7b\x7b " = tripleOpen ++ Text.of " " := by decide
      have hclose : Text.of " \x7d\x7d\x7d" = Text.of " " ++ tripleClose := by decide
      rw [trim_padded htrimmed] at hwritten
      simpa only [write, padded, hopen, hclose, List.append_assoc] using hwritten
    | true =>
      have hwritten : Written ⟨.print true, (padded name).trim⟩
          (doubleOpen ++ (padded name ++ doubleClose)) rest := by
        refine .plain ?_ ?_ (firstAfter_padded (by decide) hname)
        · rintro c ⟨⟩
          decide
        · rintro r hr
          simp only [padded, List.append_assoc] at hr
          cases hr
      rw [trim_padded htrimmed] at hwritten
      rw [show write ⟨.print true, name⟩ = Block.tagSource "" name from rfl, tagSource_eq]
      exact hwritten

end Tag

namespace Token

/-- A token as the source of a template writes it. -/
def write : Token → Text
  | char c => [c]
  | tag t _ => t.write
  | unclosed _ => Tag.doubleOpen

/-- The token at another offset. -/
def moved (offset : Nat) : Token → Token
  | char c => char c
  | tag t _ => tag t offset
  | unclosed _ => unclosed offset

/-- The same tokens at other offsets, without the comments. -/
inductive Respelled : List Token → List Token → Prop where
  | nil : Respelled [] []
  | comment {t : Tag} {offset : Nat} {ts us : List Token} (hkind : t.kind = .comment)
      (hrest : Respelled ts us) : Respelled (.tag t offset :: ts) us
  | kept (t : Token) (offset : Nat) {ts us : List Token} (hrest : Respelled ts us) :
      Respelled (t :: ts) (t.moved offset :: us)

/-- Behind one opening brace that begins no tag stands no tag either: what is written
    for the rest begins with an opening brace only if the rest does. -/
theorem Scans.head?_write {offset : Nat} {s : Text} {ts : List Token} (hscans : Scans offset s ts)
    (hhead : s.head? ≠ some Tag.openBrace) :
    (ts.flatMap write).head? ≠ some Tag.openBrace := by
  cases hscans with
  | nil => simp
  | char hopen hrest => simpa [write] using hhead
  | tag hwritten hrest =>
    obtain ⟨inner, rfl⟩ := hwritten.eq_braces
    exact absurd rfl hhead
  | unclosed hclose => exact absurd rfl hhead

theorem doubleOpen_prefix_cons_iff {c : CodePoint} {r : Text} :
    Tag.doubleOpen <+: c :: r ↔ c = Tag.openBrace ∧ r.head? = some Tag.openBrace := by
  cases r with
  | nil => simp [Tag.doubleOpen]
  | cons d r =>
    rw [Tag.doubleOpen, List.cons_prefix_cons, List.cons_prefix_cons]
    simp [eq_comm]

/-- What is written for the tokens of a text is read as the same tokens. -/
theorem Scans.respelled {offset : Nat} {s : Text} {ts : List Token} (hscans : Scans offset s ts)
    (hclosed : ∀ p, Token.unclosed p ∉ ts) (start : Nat) :
    ∃ us, Scans start (ts.flatMap write) us ∧ Respelled ts us := by
  induction hscans generalizing start with
  | nil => exact ⟨[], .nil start, .nil⟩
  | @char _ c r ts hopen hrest ih =>
    obtain ⟨us, hus, hsame⟩ := ih (fun p hp => hclosed p (List.mem_cons_of_mem _ hp)) (start + 1)
    refine ⟨.char c :: us, .char ?_ hus, .kept (.char c) 0 hsame⟩
    -- What is written behind `c` is new, but a brace at its start comes from the source.
    rw [doubleOpen_prefix_cons_iff] at hopen ⊢
    rintro ⟨hc, hhead⟩
    exact hrest.head?_write (fun hr => hopen ⟨hc, hr⟩) hhead
  | @tag _ t piece rest ts hwritten hrest ih =>
    have hrestClosed : ∀ p, Token.unclosed p ∉ ts :=
      fun p hp => hclosed p (List.mem_cons_of_mem _ hp)
    by_cases hkind : t.kind = .comment
    · obtain ⟨us, hus, hsame⟩ := ih hrestClosed start
      refine ⟨us, ?_, .comment hkind hsame⟩
      simpa [write, Tag.write, hkind] using hus
    · obtain ⟨us, hus, hsame⟩ := ih hrestClosed (start + t.write.length)
      refine ⟨.tag t start :: us, ?_, .kept (.tag t _) start hsame⟩
      exact .tag (hwritten.readable.written hkind _) hus
  | unclosed hclose => exact absurd (List.mem_singleton.2 rfl) (hclosed _)

end Token

namespace Block

/-- What is written for the tag of a block inside the named open sections. -/
def Tag.written (names : List Text) : Tag → Text
  | print escaped n => Stencil.Tag.write ⟨.print escaped, n.text⟩
  | opening inverted n _ => Stencil.Tag.write ⟨.opening inverted, n.text⟩
  | closing => Stencil.Tag.write ⟨.closing, names.headD []⟩
  | tail => []

/-- The names of the open sections behind a tag. -/
def Tag.namesBehind (names : List Text) : Tag → List Text
  | opening _ n _ => n.text :: names
  | closing => names.tail
  | _ => names

/-- The names of the open sections behind some blocks. -/
def openNames (names : List Text) (bs : List Block) : List Text :=
  bs.foldl (fun names b => b.tag.namesBehind names) names

/-- The source of blocks is that of the first, with the names open there, and of the others, with
the names open behind it. -/
theorem source_cons (names : List Text) (b : Block) (bs : List Block) :
    source names (b :: bs) =
      b.html ++ (b.tag.written names ++ source (b.tag.namesBehind names) bs) := by
  obtain ⟨html, tag⟩ := b
  cases tag with
  | print escaped n =>
    cases escaped <;> simp [source, Tag.written, Stencil.Tag.write, Tag.namesBehind]
  | opening inverted n count => rfl
  | closing => rfl
  | tail => rfl

/-- The blocks before decide which names are open for those that follow. -/
theorem source_append (names : List Text) (as bs : List Block) :
    source names (as ++ bs) = source names as ++ source (openNames names as) bs := by
  induction as generalizing names with
  | nil => rfl
  | cons a as ih =>
    rw [List.cons_append, source_cons, source_cons, ih]
    simp [openNames]

/-- Neither what is written for a block nor the open sections behind it depend on the
    number of blocks that belong to it. -/
theorem source_modify (names : List Text) (bs : List Block) (i count : Nat) :
    source names (bs.modify i (withChildren count)) = source names bs ∧
      openNames names (bs.modify i (withChildren count)) = openNames names bs := by
  induction bs generalizing names i with
  | nil => simp
  | cons b bs ih =>
    cases i with
    | zero =>
      obtain ⟨html, tag⟩ := b
      rw [List.modify_zero_cons, source_cons, source_cons]
      cases tag <;> exact ⟨rfl, rfl⟩
    | succ i =>
      rw [List.modify_succ_cons, source_cons, source_cons]
      exact ⟨by rw [(ih _ i).1], (ih _ i).2⟩

end Block

namespace Builder

/-- The source of what is built so far. -/
def written (b : Builder) : Text := Block.source [] b.blocks.toList ++ b.pending.reverse

/-- The blocks leave exactly those sections open that the builder counts as open. -/
def Named (b : Builder) : Prop := Block.openNames [] b.blocks.toList = b.opened.map Open.name

/-- Pushing a block writes its tag behind what has been written. -/
theorem push_written (b : Builder) (tag : Block.Tag) :
    (b.push tag).written =
      b.written ++ tag.written (Block.openNames [] b.blocks.toList) := by
  have hblocks : (b.push tag).blocks.toList = b.blocks.toList ++ [⟨b.pending.reverse, tag⟩] := by
    simp [push]
  rw [written, written, hblocks, Block.source_append, Block.source_cons]
  simp [push, Block.source]

theorem push_openNames (b : Builder) (tag : Block.Tag) :
    Block.openNames [] (b.push tag).blocks.toList =
      tag.namesBehind (Block.openNames [] b.blocks.toList) := by
  simp [push, Block.openNames]

/-- A step writes down the token it takes in. -/
theorem Step.written {hasher : Hasher} {b b' : Builder} {t : Token} (hstep : Step hasher b t b')
    (hnamed : b.Named) : b'.Named ∧ b'.written = b.written ++ t.write := by
  cases hstep with
  | char c => exact ⟨hnamed, by simp [Builder.written, Token.write]⟩
  | comment hkind => exact ⟨hnamed, by simp [Token.write, Tag.write, hkind]⟩
  | @print t _ escaped hash hkind hname hhash =>
    refine ⟨(push_openNames b _).trans hnamed, ?_⟩
    rw [push_written]
    simp [Token.write, Tag.write, hkind, Block.Tag.written]
  | @opening t offset inverted hash hkind hname hhash =>
    refine ⟨(push_openNames b _).trans ?_, ?_⟩
    · simpa [openSection, Block.Tag.namesBehind, Named] using hnamed
    · refine (push_written b _).trans ?_
      simp [Token.write, Tag.write, hkind, Block.Tag.written]
  | @closing t offset o rest hkind hname hopened hsame =>
    obtain ⟨hsource, hnames⟩ := Block.source_modify [] (b.push .closing).blocks.toList o.index
      ((b.push .closing).blocks.size - o.index - 1)
    rw [Named, hopened, List.map_cons] at hnamed
    refine ⟨?_, ?_⟩
    · rw [Named, pushClosing, Array.toList_modify, hnames, push_openNames, hnamed]
      rfl
    · have hpushed := push_written b .closing
      rw [Builder.written, show (b.push .closing).pending = [] from rfl] at hpushed
      rw [Builder.written, pushClosing, Array.toList_modify, hsource, List.reverse_nil]
      simpa [hnamed, hsame, Token.write, Tag.write, hkind, Block.Tag.written] using hpushed

/-- What a builder has written is the tokens that it has read, comments left out. -/
theorem Reads.written {hasher : Hasher} {b b' : Builder} {ts : List Token}
    (hreads : Reads hasher b ts b') (hnamed : b.Named) :
    b'.written = b.written ++ ts.flatMap Token.write := by
  induction hreads with
  | nil => simp
  | cons hstep hreads ih =>
    obtain ⟨hnamed', hwritten⟩ := hstep.written hnamed
    rw [ih hnamed', hwritten, List.flatMap_cons, List.append_assoc]

theorem Reads.not_mem_unclosed {hasher : Hasher} {b b' : Builder} {ts : List Token}
    (hreads : Reads hasher b ts b') (p : Nat) : Token.unclosed p ∉ ts := by
  induction hreads with
  | nil => simp
  | cons hstep hreads ih =>
    rintro (_ | ⟨_, hin⟩)
    · cases hstep
    · exact ih hin

/-- The source of all blocks is what the builder has written, its pending text included. -/
theorem written_finished (b : Builder) : Block.source [] b.finished.toList = b.written := by
  rw [finished]
  split
  · rename_i hpending
    simp [Builder.written, hpending]
  · have hpushed := push_written b .tail
    rwa [Builder.written, show (b.push .tail).pending = [] from rfl, List.reverse_nil,
      List.append_nil, Block.Tag.written, List.append_nil] at hpushed

/-- Two builders that differ at most in where the open sections were opened. -/
structure Alike (b c : Builder) : Prop where
  blocks : b.blocks = c.blocks
  opened : b.opened.map (fun o => (o.index, o.name)) = c.opened.map fun o => (o.index, o.name)
  pending : b.pending = c.pending

theorem Alike.push {b c : Builder} (halike : b.Alike c) (tag : Block.Tag) :
    (b.push tag).Alike (c.push tag) :=
  ⟨by simp [Builder.push, halike.blocks, halike.pending], halike.opened, rfl⟩

/-- The offset of a token is of no account but for the sections it opens. -/
theorem Step.moved {hasher : Hasher} {b b' c : Builder} {t : Token} (hstep : Step hasher b t b')
    (halike : b.Alike c) (offset : Nat) :
    ∃ c', Step hasher c (t.moved offset) c' ∧ b'.Alike c' := by
  cases hstep with
  | char x => exact ⟨_, .char x, halike.blocks, halike.opened, by simp [halike.pending]⟩
  | comment hkind => exact ⟨_, .comment hkind, halike⟩
  | print hkind hname hhash => exact ⟨_, .print hkind hname hhash, halike.push _⟩
  | opening hkind hname hhash =>
    refine ⟨_, .opening hkind hname hhash, (halike.push _).blocks, ?_, rfl⟩
    simp [openSection, halike.blocks, halike.opened]
  | @closing t _ o rest hkind hname hopened hsame =>
    have hsections := halike.opened
    rw [hopened] at hsections
    cases hopened' : c.opened with
    | nil => simp [hopened'] at hsections
    | cons o' rest' =>
      simp only [hopened', List.map_cons, List.cons.injEq, Prod.mk.injEq] at hsections
      obtain ⟨⟨hindex, hsection⟩, hrest⟩ := hsections
      refine ⟨_, .closing hkind hname hopened' (hsection ▸ hsame), ?_, hrest, rfl⟩
      simp only [pushClosing, (halike.push .closing).blocks, hindex]

/-- Comments and offsets are of no account for what is built. -/
theorem Reads.respelled {hasher : Hasher} {b b' c : Builder} {ts us : List Token}
    (hreads : Reads hasher b ts b') (hsame : Token.Respelled ts us) (halike : b.Alike c) :
    ∃ c', Reads hasher c us c' ∧ b'.Alike c' := by
  induction hreads generalizing c us with
  | nil =>
    cases hsame
    exact ⟨c, .nil c, halike⟩
  | cons hstep hreads ih =>
    cases hsame with
    | comment hkind hrest =>
      cases hstep with
      | comment _ => exact ih hrest halike
      | print hkind' => simp [hkind] at hkind'
      | opening hkind' => simp [hkind] at hkind'
      | closing hkind' => simp [hkind] at hkind'
    | kept _ offset hrest =>
      obtain ⟨c', hstep', halike'⟩ := hstep.moved halike offset
      obtain ⟨c'', hreads', halike''⟩ := ih hrest halike'
      exact ⟨c'', .cons hstep' hreads', halike''⟩

/-- Builders that differ in offsets only finish with the same blocks. -/
theorem Alike.finished {b c : Builder} (halike : b.Alike c) : b.finished = c.finished := by
  rw [Builder.finished, Builder.finished, halike.pending, halike.blocks, (halike.push .tail).blocks]

end Builder

/-- The source of a compiled template compiles to that template: to the same texts,
    tags, names, hashes and counts. -/
theorem Template.compileWith_source {hasher : Hasher} {source : Text} {t : Template}
    (hcompile : compileWith hasher source = .ok t) : compileWith hasher t.source = .ok t := by
  obtain ⟨b, hreads, hopened, rfl⟩ := compileWith_eq_ok_iff.1 hcompile
  have hsource : Template.source ⟨b.finished.toList⟩ =
      (Token.scan source).flatMap Token.write := by
    rw [Template.source, Builder.written_finished, hreads.written rfl]
    rfl
  obtain ⟨us, hscans, hsame⟩ :=
    (Token.scans_scanFrom 0 source).respelled hreads.not_mem_unclosed 0
  obtain ⟨c, hreads', halike⟩ := hreads.respelled hsame ⟨rfl, rfl, rfl⟩
  rw [compileWith_eq_ok_iff, hsource]
  refine ⟨c, ?_, ?_, by rw [halike.finished]⟩
  · rw [← Token.scanFrom_eq_iff.2 hscans] at hreads'
    exact hreads'
  · simpa [hopened] using halike.opened

/-- A comment between two texts, a name in three braces that holds two closing ones,
    one that begins with an opening brace, and one that begins with a sign. -/
theorem Template.compileWith_source_braces :
    compileWith (Hasher.constant 0)
        (Text.of ("a\x7b\x7b! c \x7d\x7db\x7b\x7b\x7bx\x7d\x7dy\x7d\x7d\x7d\x7b\x7b \x7bz\n\x7d\x7d" ++
          "\x7b\x7b##s\x7d\x7d\x7b \x7b\x7b/ #s\x7d\x7d")) =
        .ok ⟨[⟨Text.of "ab", .print false ⟨Text.of "x\x7d\x7dy", 0⟩⟩,
          ⟨[], .print true ⟨Text.of "\x7bz", 0⟩⟩, ⟨[], .opening false ⟨Text.of "#s", 0⟩ 1⟩,
          ⟨Text.of "\x7b ", .closing⟩]⟩ ∧
      compileWith (Hasher.constant 0)
        (Text.of ("ab\x7b\x7b\x7b x\x7d\x7dy \x7d\x7d\x7d\x7b\x7b \x7bz \x7d\x7d\x7b\x7b# #s \x7d\x7d" ++
          "\x7b \x7b\x7b/ #s \x7d\x7d")) =
        .ok ⟨[⟨Text.of "ab", .print false ⟨Text.of "x\x7d\x7dy", 0⟩⟩,
          ⟨[], .print true ⟨Text.of "\x7bz", 0⟩⟩, ⟨[], .opening false ⟨Text.of "#s", 0⟩ 1⟩,
          ⟨Text.of "\x7b ", .closing⟩]⟩ := by
  have hcompile : compileWith (Hasher.constant 0)
      (Text.of ("a\x7b\x7b! c \x7d\x7db\x7b\x7b\x7bx\x7d\x7dy\x7d\x7d\x7d\x7b\x7b \x7bz\n\x7d\x7d" ++
        "\x7b\x7b##s\x7d\x7d\x7b \x7b\x7b/ #s\x7d\x7d")) =
      .ok ⟨[⟨Text.of "ab", .print false ⟨Text.of "x\x7d\x7dy", 0⟩⟩,
        ⟨[], .print true ⟨Text.of "\x7bz", 0⟩⟩, ⟨[], .opening false ⟨Text.of "#s", 0⟩ 1⟩,
        ⟨Text.of "\x7b ", .closing⟩]⟩ := by decide
  exact ⟨hcompile, compileWith_source hcompile⟩

end Stencil
