import Stencil.Proofs.Template.Literal

namespace Stencil

namespace Tag

/-- The text without a sign at its start. -/
def afterSign : Text → Text
  | [] => []
  | c :: r => if (Kind.ofSign? c).isSome then r else c :: r

/-- The name holds no pair of braces, and it begins with an opening one only if it is shown as it
is. -/
structure Clean (t : Tag) : Prop where
  unopened : ¬ doubleOpen <:+: t.name
  unclosed : ¬ doubleClose <:+: t.name
  unled : t.kind ≠ .print false → t.name.head? ≠ some openBrace

/-- A tag of some kind takes in braces that end or begin no name, by what stands behind its two
opening braces. -/
inductive Absorbs (kind : Kind) : Text → Prop where
  /-- Another tag is opened before any is closed. -/
  | reopened {c : CodePoint} {a : Text} (b : Text) (hclose : ¬ doubleClose <:+: c :: a) :
      Absorbs kind (c :: (a ++ doubleOpen ++ b))
  /-- Three opening braces are followed by two closing ones. -/
  | shortened {a b : Text} (hfirst : Text.FirstAfter doubleClose a)
      (hrun : b.head? ≠ some closeBrace) : Absorbs kind (openBrace :: (a ++ doubleClose ++ b))
  /-- A brace stands behind the sign and the blanks. -/
  | led {r : Text} (hkind : kind ≠ .print false)
      (hlead : (afterSign r).trimLeft.head? = some openBrace) : Absorbs kind r

/-- Trimming takes blanks only, so it takes no opening braces away. -/
theorem doubleOpen_infix_trim_iff {t : Text} : doubleOpen <:+: t.trim ↔ doubleOpen <:+: t :=
  Text.infix_trim_iff (by simp [doubleOpen]) (by decide)

theorem doubleClose_infix_trim_iff {t : Text} : doubleClose <:+: t.trim ↔ doubleClose <:+: t :=
  Text.infix_trim_iff (by simp [doubleClose]) (by decide)

/-- What closes a tag is no part of the blanks and the brace behind its sign. -/
theorem head?_trimLeft_append (inner rest : Text) :
    (Text.trimLeft (inner ++ (doubleClose ++ rest))).head? = some openBrace ↔
      (Text.trim inner).head? = some openBrace := by
  have hclose : Text.trimLeft (doubleClose ++ rest) = doubleClose ++ rest := by
    simp [Text.trimLeft, doubleClose, show closeBrace.isBlank = false by decide]
  rw [Text.head?_trim, Text.trimLeft, List.dropWhile_append]
  split
  · rename_i hempty
    rw [List.isEmpty_iff] at hempty
    rw [Text.trimLeft, hempty, ← Text.trimLeft, hclose]
    simp [doubleClose, show closeBrace ≠ openBrace by decide]
  · rename_i hne
    rw [List.isEmpty_iff] at hne
    rw [List.head?_append_of_ne_nil _ hne, Text.trimLeft]

theorem openBrace_ne_closeBrace : openBrace ≠ closeBrace := by decide

/-- Two closing braces and two opening ones in a text do not overlap. -/
theorem behind_of_append_eq {x y a b : Text}
    (hsplit : x ++ (doubleClose ++ y) = a ++ (doubleOpen ++ b)) :
    (∃ w, a = x ++ (doubleClose ++ w) ∧ y = w ++ (doubleOpen ++ b)) ∨
      ∃ w, x = a ++ (doubleOpen ++ w) ∧ b = w ++ (doubleClose ++ y) := by
  rcases List.append_eq_append_iff.1 hsplit with ⟨w, rfl, hw⟩ | ⟨w, rfl, hw⟩
  · rcases w with _ | ⟨c, _ | ⟨d, w⟩⟩
    · simp [doubleClose, doubleOpen, openBrace_ne_closeBrace.symm] at hw
    · simp [doubleClose, doubleOpen, openBrace_ne_closeBrace.symm] at hw
    · simp only [doubleClose, List.cons_append, List.nil_append, List.cons.injEq] at hw
      obtain ⟨rfl, rfl, hy⟩ := hw
      exact .inl ⟨w, rfl, hy⟩
  · rcases w with _ | ⟨c, _ | ⟨d, w⟩⟩
    · simp [doubleClose, doubleOpen, openBrace_ne_closeBrace] at hw
    · simp [doubleClose, doubleOpen, openBrace_ne_closeBrace] at hw
    · simp only [doubleOpen, List.cons_append, List.nil_append, List.cons.injEq] at hw
      obtain ⟨rfl, rfl, hb⟩ := hw
      exact .inr ⟨w, rfl, hb⟩

/-- Of a tag of three braces the first two closing ones stand inside it if no third one follows
them. -/
theorem doubleClose_infix_of_append_eq {inner rest a b : Text}
    (hfirst : Text.FirstAfter doubleClose a) (hrun : b.head? ≠ some closeBrace)
    (hsplit : inner ++ (tripleClose ++ rest) = a ++ (doubleClose ++ b)) :
    doubleClose <:+: inner := by
  rcases List.append_eq_append_iff.1 hsplit with ⟨w, rfl, hw⟩ | ⟨w, rfl, hw⟩
  · have hstarts : doubleClose <+: w ++ doubleClose ++ b :=
      ⟨closeBrace :: rest, by rw [List.append_assoc, ← hw]; rfl⟩
    obtain rfl := hfirst.of_append.eq_nil_of_starts hstarts
    simp only [tripleClose, doubleClose, List.cons_append, List.nil_append, List.cons.injEq,
      true_and] at hw
    exact absurd (hw ▸ rfl) hrun
  · simp only [tripleClose, doubleClose, List.cons_append, List.nil_append] at hw
    rcases w with _ | ⟨c, _ | ⟨d, w⟩⟩
    · obtain rfl : b = closeBrace :: rest := by simpa using hw
      exact absurd rfl hrun
    · obtain ⟨-, rfl⟩ : c = closeBrace ∧ b = closeBrace :: closeBrace :: rest := by
        simpa [eq_comm] using hw
      exact absurd rfl hrun
    · simp only [List.cons_append, List.cons.injEq] at hw
      obtain ⟨rfl, rfl, -⟩ := hw
      exact ⟨a, w, by simp [doubleClose]⟩

section Closed

variable {kind : Kind} {inner rest : Text}

/-- A name is clean if it is what stands before the first closing braces, holds no opening ones, and
does not start with a brace unless three braces opened its tag. -/
theorem clean_of_closed (hend : Text.FirstAfter doubleClose inner)
    (hopen : ¬ doubleOpen <:+: inner)
    (hlead : kind ≠ .print false → inner.trim.head? ≠ some openBrace) :
    Clean ⟨kind, inner.trim⟩ :=
  ⟨fun hin => hopen (doubleOpen_infix_trim_iff.1 hin), fun hin =>
    hend.not_inside (by simp [doubleClose]) (doubleClose_infix_trim_iff.1 hin), hlead⟩

/-- Opening braces before the closing ones stand in the name. -/
theorem not_clean_of_reopened {a b : Text} (hclose : ¬ doubleClose <:+: a)
    (hsplit : inner ++ (doubleClose ++ rest) = a ++ (doubleOpen ++ b)) :
    ¬ Clean ⟨kind, inner.trim⟩ := by
  intro hclean
  rcases behind_of_append_eq hsplit with ⟨w, rfl, -⟩ | ⟨w, rfl, -⟩
  · exact hclose ⟨inner, w, by simp⟩
  · exact hclean.unopened (doubleOpen_infix_trim_iff.2 ⟨a, w, by simp⟩)

/-- Opening braces inside a tag are opened before it is closed. -/
theorem absorbs_of_inside {c : CodePoint} (hclose : ¬ doubleClose <:+: c :: inner)
    (hopen : doubleOpen <:+: inner) (rest : Text) : Absorbs kind (c :: (inner ++ rest)) := by
  obtain ⟨a, b, rfl⟩ := hopen
  have hbefore : ¬ doubleClose <:+: c :: a := fun hin => by
    rw [List.append_assoc, ← List.cons_append] at hclose
    exact hclose (hin.trans (List.prefix_append _ _).isInfix)
  have hreopened : Absorbs kind (c :: (a ++ doubleOpen ++ (b ++ rest))) := .reopened _ hbefore
  simpa using hreopened

/-- A tag with a sign. -/
theorem clean_signed_iff {c : CodePoint} (hsign : Kind.ofSign? c = some kind)
    (hend : Text.FirstAfter doubleClose inner) :
    Clean ⟨kind, inner.trim⟩ ↔ ¬ Absorbs kind (c :: (inner ++ (doubleClose ++ rest))) := by
  have hafter : afterSign (c :: (inner ++ (doubleClose ++ rest))) =
      inner ++ (doubleClose ++ rest) := by
    simp [afterSign, hsign]
  constructor
  · rintro hclean habsorbs
    generalize hr : c :: (inner ++ (doubleClose ++ rest)) = r at habsorbs
    cases habsorbs with
    | @reopened d a b hclose =>
      rw [List.append_assoc] at hr
      exact not_clean_of_reopened (mt List.infix_cons hclose) (List.cons.inj hr).2 hclean
    | shortened hfirst hrun =>
      obtain ⟨rfl, -⟩ := List.cons.inj hr
      simp [show Kind.ofSign? openBrace = none by decide] at hsign
    | led hkind hlead =>
      rw [← hr, hafter, head?_trimLeft_append] at hlead
      exact hclean.unled hkind hlead
  · intro habsorbs
    refine clean_of_closed hend (fun hopen => habsorbs ?_) fun hkind hlead => habsorbs ?_
    · have hc : c ≠ closeBrace := by
        rintro rfl
        simp [show Kind.ofSign? closeBrace = none by decide] at hsign
      have hclose : ¬ doubleClose <:+: c :: inner := by
        rw [doubleClose_infix_cons_iff hc]
        exact hend.not_inside (by simp [doubleClose])
      exact absorbs_of_inside hclose hopen _
    · exact .led hkind (by rwa [hafter, head?_trimLeft_append])

theorem afterSign_of_unsigned (hunsigned : ∀ c ∈ inner.head?, Kind.ofSign? c = none) (rest : Text) :
    afterSign (inner ++ (doubleClose ++ rest)) = inner ++ (doubleClose ++ rest) := by
  cases inner with
  | nil => simp [afterSign, doubleClose, show Kind.ofSign? closeBrace = none by decide]
  | cons c inner => simp [afterSign, hunsigned c rfl]

/-- A tag without a sign that is not one of three braces. -/
theorem clean_plain_iff (hend : Text.FirstAfter doubleClose inner)
    (hunsigned : ∀ c ∈ inner.head?, Kind.ofSign? c = none)
    (hnotTriple : ∀ r, inner ++ doubleClose ++ rest = openBrace :: r → ¬ tripleClose <:+: r) :
    Clean ⟨.print true, inner.trim⟩ ↔
      ¬ Absorbs (.print true) (inner ++ (doubleClose ++ rest)) := by
  have hafter := afterSign_of_unsigned hunsigned rest
  constructor
  · rintro hclean habsorbs
    generalize hr : inner ++ (doubleClose ++ rest) = r at habsorbs
    cases habsorbs with
    | reopened b hclose =>
      rw [List.append_assoc, ← List.cons_append] at hr
      exact not_clean_of_reopened hclose hr hclean
    | shortened hfirst hrun =>
      cases inner with
      | nil => exact openBrace_ne_closeBrace.symm (List.cons.inj hr).1
      | cons c inner =>
        obtain ⟨rfl, -⟩ := List.cons.inj hr
        exact hclean.unled (by simp) (Text.head?_trim_cons (by decide) inner)
    | led hkind hlead =>
      rw [← hr, hafter, head?_trimLeft_append] at hlead
      exact hclean.unled hkind hlead
  · intro habsorbs
    refine clean_of_closed hend (fun hopen => habsorbs ?_) fun hkind hlead => habsorbs ?_
    · cases inner with
      | nil => simp [doubleOpen] at hopen
      | cons c inner =>
        rcases List.infix_cons_iff.1 hopen with hstarts | hopen
        · -- The third brace and the fourth one open it, and it is closed by two.
          obtain ⟨rfl, -⟩ := List.cons_prefix_cons.1 hstarts
          have hrun : rest.head? ≠ some closeBrace := by
            intro hhead
            obtain ⟨tail, rfl⟩ := List.head?_eq_some_iff.1 hhead
            exact hnotTriple _ rfl ⟨inner, tail, by simp [tripleClose, doubleClose]⟩
          have hshortened : Absorbs (.print true)
              (openBrace :: (inner ++ doubleClose ++ rest)) := .shortened hend.tail hrun
          simpa using hshortened
        · exact absorbs_of_inside (hend.not_inside (by simp [doubleClose])) hopen _
    · exact .led hkind (by rwa [hafter, head?_trimLeft_append])

/-- A tag of three braces. -/
theorem clean_triple_iff (hend : Text.FirstAfter tripleClose inner) :
    Clean ⟨.print false, inner.trim⟩ ↔
      ¬ Absorbs (.print false) (openBrace :: (inner ++ (tripleClose ++ rest))) := by
  constructor
  · rintro hclean habsorbs
    generalize hr : openBrace :: (inner ++ (tripleClose ++ rest)) = r at habsorbs
    cases habsorbs with
    | @reopened c a b hclose =>
      rw [List.append_assoc] at hr
      have hsplit : inner ++ (doubleClose ++ closeBrace :: rest) = a ++ (doubleOpen ++ b) :=
        (List.cons.inj hr).2
      exact not_clean_of_reopened (mt List.infix_cons hclose) hsplit hclean
    | shortened hfirst hrun =>
      rw [List.append_assoc] at hr
      exact hclean.unclosed (doubleClose_infix_trim_iff.2
        (doubleClose_infix_of_append_eq hfirst hrun (List.cons.inj hr).2))
    | led hkind hlead => exact hkind rfl
  · intro habsorbs
    have hclose : ¬ doubleClose <:+: inner := by
      intro hin
      obtain ⟨a, b, rfl, hfirst⟩ := Text.exists_firstAfter hin
      have hrun : (b ++ (tripleClose ++ rest)).head? ≠ some closeBrace := by
        intro hhead
        -- A third closing brace behind the first two would end the tag there.
        have hstarts : tripleClose <+: doubleClose ++ b ++ tripleClose ++ rest := by
          obtain ⟨tail, htail⟩ := List.head?_eq_some_iff.1 hhead
          rw [List.append_assoc, List.append_assoc, htail]
          exact ⟨tail, rfl⟩
        rw [List.append_assoc] at hend
        simpa [doubleClose] using hend.of_append.eq_nil_of_starts hstarts
      have hshortened : Absorbs (.print false)
          (openBrace :: (a ++ doubleClose ++ (b ++ (tripleClose ++ rest)))) := .shortened hfirst hrun
      exact habsorbs (by simpa using hshortened)
    refine ⟨fun hopen => ?_, fun hin => hclose (doubleClose_infix_trim_iff.1 hin), by simp⟩
    have hbefore : ¬ doubleClose <:+: openBrace :: inner := by
      rwa [doubleClose_infix_cons_iff openBrace_ne_closeBrace]
    exact habsorbs (absorbs_of_inside hbefore (doubleOpen_infix_trim_iff.1 hopen) _)

end Closed

/-- The name of a tag is clean unless what stands behind its opening braces makes it take in other
braces. -/
theorem Written.clean_iff {t : Tag} {piece rest r : Text} (hwritten : Written t piece rest)
    (hr : piece ++ rest = doubleOpen ++ r) : t.Clean ↔ ¬ Absorbs t.kind r := by
  cases hwritten with
  | @triple inner _ hend =>
    obtain rfl : openBrace :: (inner ++ (tripleClose ++ rest)) = r := by
      simpa [tripleOpen, doubleOpen] using hr
    exact clean_triple_iff hend
  | @signed c kind inner _ hsign hend =>
    obtain rfl : c :: (inner ++ (doubleClose ++ rest)) = r := by simpa using hr
    exact clean_signed_iff hsign hend
  | @plain inner _ hunsigned hnotTriple hend =>
    obtain rfl : inner ++ (doubleClose ++ rest) = r := by simpa using hr
    exact clean_plain_iff hend hunsigned hnotTriple

/-- The name that the block of a tag holds. -/
def blockName? (t : Tag) : Option Text :=
  match t.kind with
  | .print _ => some t.name
  | .opening _ => some t.name
  | _ => none

end Tag

/-- Behind all opening braces of a text stand closing ones, unless some begin an unclosed tag. -/
theorem Token.Scans.closed {offset : Nat} {s : Text} {ts : List Token} (hscans : Scans offset s ts)
    (hclosed : ∀ p, Token.unclosed p ∉ ts) {before r : Text}
    (hs : s = before ++ (Tag.doubleOpen ++ r)) : Tag.doubleClose <:+: r := by
  induction hscans generalizing before with
  | nil => simp [Tag.doubleOpen] at hs
  | char hopen hrest ih =>
    cases before with
    | nil => exact absurd ⟨r, hs.symm⟩ hopen
    | cons d before =>
      exact ih (fun p hp => hclosed p (List.mem_cons_of_mem _ hp)) (List.cons.inj hs).2
  | @tag _ _ piece rest _ hwritten hrest ih =>
    obtain ⟨inner, rfl⟩ := hwritten.eq_braces
    rw [List.append_assoc (Tag.doubleOpen ++ inner)] at hs
    rcases Tag.behind_of_append_eq hs with ⟨w, -, hbehind⟩ | ⟨w, -, rfl⟩
    · exact ih (fun p hp => hclosed p (List.mem_cons_of_mem _ hp)) hbehind
    · exact ⟨w, rest, by simp⟩
  | unclosed hclose => exact absurd (List.mem_singleton.2 rfl) (hclosed _)

/-- Comments have no block, so without them the same names are left. -/
theorem Segment.blockNames_joined (pending : Text) (segs : List Segment) :
    (joined pending segs).filterMap (·.tag.blockName?) = segs.filterMap (·.tag.blockName?) := by
  induction segs generalizing pending with
  | nil => rfl
  | cons s segs ih =>
    rw [joined]
    split
    · rename_i hkind
      rw [ih, List.filterMap_cons_none]
      simp [Tag.blockName?, hkind]
    · rw [List.filterMap_cons, List.filterMap_cons, ih]

namespace Block

/-- The name a block holds. -/
def name? (b : Block) : Option Text := b.tag.name?.map FieldName.text

theorem Carries.name?_eq {b : Block} {s : Segment} (hcarries : b.Carries s) :
    b.name? = s.tag.blockName? := by
  cases hcarries with
  | print hkind hname => simp [name?, Tag.name?, Stencil.Tag.blockName?, hkind, hname]
  | opening hkind hname => simp [name?, Tag.name?, Stencil.Tag.blockName?, hkind, hname]
  | closing hkind => simp [name?, Tag.name?, Stencil.Tag.blockName?, hkind]

/-- Blocks that carry the tags of segments have the names of these tags. -/
theorem names_of_carries {bs : List Block} {segs : List Segment}
    (hcarry : List.Forall₂ Carries bs segs) :
    bs.filterMap name? = segs.filterMap (·.tag.blockName?) := by
  induction hcarry with
  | nil => rfl
  | cons hcarries hcarry ih => rw [List.filterMap_cons, List.filterMap_cons, hcarries.name?_eq, ih]

end Block

namespace Template

open Placed

/-- The names that the blocks hold, in order. -/
def names (t : Template) : List Text := t.blocks.filterMap Block.name?

/-- The names of the blocks of a source are those that its tags give to blocks, in their order. -/
theorem names_of_compile {hasher : Hasher} {source tail : Text} {t : Template} {ps : List Placed}
    {start : Nat} (hcompile : compileWith hasher source = .ok t)
    (hsplits : Splits 0 source ps start tail) : t.names = ps.filterMap (·.tag.blockName?) := by
  obtain ⟨b, hreads, -, rfl⟩ := compileWith_eq_ok_iff.1 hcompile
  obtain ⟨segs, hcuts, htags⟩ := Segment.cuts_of_splits hsplits
  have hnone : Builder.Holds {} [] := .nil
  obtain ⟨hholds, -, -⟩ := hreads.holds hcuts hnone
  change List.Forall₂ Block.Carries b.blocks.toList (Segment.joined [] segs) at hholds
  have hbehind : (Block.behindTags b.pending.reverse).filterMap Block.name? = [] :=
    List.filterMap_eq_nil_iff.2 fun c hc => by rw [Block.eq_of_mem_behindTags hc]; rfl
  calc names ⟨b.finished.toList⟩
      = b.blocks.toList.filterMap Block.name? := by
        rw [names, b.finished_eq, List.filterMap_append, hbehind, List.append_nil]
    _ = segs.filterMap (·.tag.blockName?) := by
        rw [Block.names_of_carries hholds, Segment.blockNames_joined]
    _ = (segs.map Segment.tag).filterMap Tag.blockName? := by rw [List.filterMap_map]; rfl
    _ = ps.filterMap (·.tag.blockName?) := by rw [htags, List.filterMap_map]; rfl

/-- In a source that compiles something is closed behind all opening braces. The names of its
variables and sections are those of its tags, and a tag has braces in its name exactly if what
stands behind its opening braces makes it take them in: such a tag is not refused. -/
theorem clean_iff_of_compile {hasher : Hasher} {source : Text} {t : Template}
    (hcompile : compileWith hasher source = .ok t) :
    (∀ before r, source = before ++ (Tag.doubleOpen ++ r) → Tag.doubleClose <:+: r) ∧
      (∃ ps start tail, Splits 0 source ps start tail) ∧
        ∀ ps start tail, Splits 0 source ps start tail →
          t.names = ps.filterMap (·.tag.blockName?) ∧
            ∀ p ∈ ps, p.tag.Clean ↔ ¬ Tag.Absorbs p.tag.kind (source.drop (p.offset + 2)) := by
  refine ⟨?_, exists_splits 0 source, fun ps start tail hsplits =>
    ⟨names_of_compile hcompile hsplits, fun p hp => ?_⟩⟩
  · obtain ⟨b, hreads, -, -⟩ := compileWith_eq_ok_iff.1 hcompile
    exact fun before r => (Token.scans_scanFrom 0 source).closed hreads.not_mem_unclosed
  · obtain ⟨before, piece, rest, rfl, hoffset, hwritten⟩ := hsplits.exists_written hp
    refine hwritten.clean_iff ?_
    obtain ⟨inner, rfl⟩ := hwritten.eq_braces
    rw [hoffset, Nat.zero_add, ← List.drop_drop, List.drop_left]
    rfl

/-- A variable behind which other braces are opened before its own are closed, and a section whose
name begins with a brace. -/
theorem clean_iff_of_compile_absorbed :
    let source := Text.of "\x7b\x7ba \x7b\x7b\x7bb\x7d\x7d\x7b\x7b#\x7bc\x7d\x7d\x7b\x7b/\x7bc\x7d\x7d"
    let ps : List Placed := [⟨⟨.print true, Text.of "a \x7b\x7b\x7bb"⟩, 0⟩,
      ⟨⟨.opening false, Text.of "\x7bc"⟩, 10⟩, ⟨⟨.closing, Text.of "\x7bc"⟩, 17⟩]
    let t : Template := ⟨[⟨[], .print true ⟨Text.of "a \x7b\x7b\x7bb", 0⟩⟩,
      ⟨[], .opening false ⟨Text.of "\x7bc", 0⟩ 1⟩, ⟨[], .closing⟩]⟩
    compileWith (.constant 0) source = .ok t ∧ Splits 0 source ps 24 [] ∧
      ∀ p ∈ ps, Tag.Absorbs p.tag.kind (source.drop (p.offset + 2)) ∧ ¬ p.tag.Clean := by
  intro source ps t
  have hcompile : compileWith (.constant 0) source = .ok t := by decide
  have hplain : Tag.Written ⟨.print true, Text.of "a \x7b\x7b\x7bb"⟩
      (Tag.doubleOpen ++ (Text.of "a \x7b\x7b\x7bb" ++ Tag.doubleClose))
      (Text.of "\x7b\x7b#\x7bc\x7d\x7d\x7b\x7b/\x7bc\x7d\x7d") :=
    @Tag.Written.plain (Text.of "a \x7b\x7b\x7bb") _ (by decide) (by rintro r ⟨⟩)
      (Tag.firstAfter_of_not_mem (by decide))
  have hsigned : ∀ {c kind} (rest : Text), Tag.Kind.ofSign? c = some kind →
      Tag.Written ⟨kind, Text.of "\x7bc"⟩ (Tag.signed c (Text.of "\x7bc")) rest :=
    fun {c kind} rest hsign => Tag.written_signed hsign (by decide) (by decide) rest
  have hsplits : Splits 0 source ps 24 [] :=
    .tag (untagged_nil _) hplain (.tag (untagged_nil _) (hsigned _ (by decide))
      (.tag (untagged_nil _) (hsigned [] (by decide)) (.tail (untagged_nil _))))
  have habsorbs : ∀ p ∈ ps, Tag.Absorbs p.tag.kind (source.drop (p.offset + 2)) := by
    refine List.forall_mem_cons.2 ⟨?_, List.forall_mem_cons.2 ⟨?_, List.forall_mem_singleton.2 ?_⟩⟩
    · exact @Tag.Absorbs.reopened _ 'a' (Text.of " ")
        (Text.of "\x7bb\x7d\x7d\x7b\x7b#\x7bc\x7d\x7d\x7b\x7b/\x7bc\x7d\x7d") (by decide)
    · exact .led (by decide) (by decide)
    · exact .led (by decide) (by decide)
  have hclean := ((clean_iff_of_compile hcompile).2.2 ps 24 [] hsplits).2
  exact ⟨hcompile, hsplits, fun p hp => ⟨habsorbs p hp, fun h => (hclean p hp).1 h (habsorbs p hp)⟩⟩

/-- A tag that is not closed is not refused if a later one is, or if two braces can close it as a
tag of another form. -/
theorem compile_of_absorbed :
    compile (Text.of "\x7b\x7ba \x7b\x7bb\x7d\x7d") =
        .ok ⟨[⟨[], .print true ⟨Text.of "a \x7b\x7bb", 6340763744515142805⟩⟩]⟩ ∧
      compile (Text.of "\x7b\x7b\x7ba\x7d\x7d") =
        .ok ⟨[⟨[], .print true ⟨Text.of "\x7ba", 3601331968159103444⟩⟩]⟩ ∧
      compile (Text.of "\x7b\x7b\x7ba\x7d\x7d b \x7b\x7b\x7bc\x7d\x7d\x7d") =
        .ok ⟨[⟨[], .print false ⟨Text.of "a\x7d\x7d b \x7b\x7b\x7bc", 1935509493633244125⟩⟩]⟩ := by
  decide +kernel

end Template

end Stencil
