import Mathlib.Data.List.Pairwise
import Mathlib.Data.List.Nodup
import Stencil.Proofs.Template.Step

namespace Stencil

namespace Block

/-- Blocks in which every section that is opened is closed, and counts its blocks, and every name
has its hash. -/
inductive Balanced (hasher : Hasher) : List Block → Prop where
  | nil : Balanced hasher []
  | print {html : Text} {escaped : Bool} {name : FieldName} {rest : List Block}
      (hname : name.text ≠ []) (hhash : hasher name.text = some name.hash)
      (hrest : Balanced hasher rest) : Balanced hasher (⟨html, .print escaped name⟩ :: rest)
  | nested {html : Text} {inverted : Bool} {name : FieldName} {body : List Block} {last : Text}
      {rest : List Block} (hname : name.text ≠ []) (hhash : hasher name.text = some name.hash)
      (hbody : Balanced hasher body) (hrest : Balanced hasher rest) :
      Balanced hasher
        (⟨html, .opening inverted name (body.length + 1)⟩ :: (body ++ ⟨last, .closing⟩ :: rest))

/-- Balanced blocks may follow one another. -/
theorem Balanced.append {hasher : Hasher} {as bs : List Block} (has : Balanced hasher as)
    (hbs : Balanced hasher bs) : Balanced hasher (as ++ bs) := by
  induction has with
  | nil => exact hbs
  | print hname hhash _ ih => exact .print hname hhash ih
  | nested hname hhash hbody _ _ ih =>
    rw [List.cons_append, List.append_assoc, List.cons_append]
    exact .nested hname hhash hbody ih

/-- Blocks with some sections still open: balanced levels, and between two of them the
    opening block of a section, which has counted nothing yet. -/
inductive HalfBuilt (hasher : Hasher) : List Block → List Builder.Open → Prop where
  | level {bs : List Block} (hbs : Balanced hasher bs) : HalfBuilt hasher bs []
  | opened {bs : List Block} {os : List Builder.Open} {html : Text} {inverted : Bool}
      {name : FieldName} {offset : Nat} {body : List Block} (hbs : HalfBuilt hasher bs os)
      (hname : name.text ≠ []) (hhash : hasher name.text = some name.hash)
      (hbody : Balanced hasher body) :
      HalfBuilt hasher (bs ++ ⟨html, .opening inverted name 0⟩ :: body)
        (⟨bs.length, name.text, offset⟩ :: os)

/-- Balanced blocks belong to the innermost open section. -/
theorem HalfBuilt.append {hasher : Hasher} {bs cs : List Block} {os : List Builder.Open}
    (hbs : HalfBuilt hasher bs os) (hcs : Balanced hasher cs) : HalfBuilt hasher (bs ++ cs) os := by
  cases hbs with
  | level hbs => exact .level (hbs.append hcs)
  | opened hbs hname hhash hbody =>
    rw [List.append_assoc, List.cons_append]
    exact .opened hbs hname hhash (hbody.append hcs)

/-- Closing the innermost section makes its level a part of the one around it. -/
theorem HalfBuilt.pushClosing {hasher : Hasher} {b : Builder} {o : Builder.Open}
    {rest : List Builder.Open} (hbuilt : HalfBuilt hasher b.blocks.toList (o :: rest)) :
    HalfBuilt hasher (b.pushClosing o.index).toList rest := by
  generalize hblocks : b.blocks.toList = blocks at hbuilt
  cases hbuilt with
  | opened hbs hname hhash hbody =>
    rw [Builder.toList_pushClosing hblocks]
    exact hbs.append (.nested hname hhash hbody .nil)

end Block

namespace Builder

/-- Each step keeps the levels: a new section starts one, and a closing block joins the innermost
with the level around it. -/
theorem Step.halfBuilt {hasher : Hasher} {b b' : Builder} {t : Token} (hstep : Step hasher b t b')
    (hbuilt : Block.HalfBuilt hasher b.blocks.toList b.opened) :
    Block.HalfBuilt hasher b'.blocks.toList b'.opened := by
  cases hstep with
  | char c => exact hbuilt
  | comment hkind => exact hbuilt
  | @print t _ escaped hash hkind hname hhash =>
    have hlast : Block.Balanced hasher [⟨b.pending.reverse, .print escaped ⟨t.name, hash⟩⟩] :=
      .print hname hhash .nil
    simpa [push] using hbuilt.append hlast
  | @opening t offset inverted hash hkind hname hhash =>
    have hlast : Block.HalfBuilt hasher
        (b.blocks.toList ++ [⟨b.pending.reverse, .opening inverted ⟨t.name, hash⟩ 0⟩])
        (⟨b.blocks.toList.length, t.name, offset⟩ :: b.opened) :=
      .opened hbuilt hname hhash .nil
    simpa [openSection, push] using hlast
  | closing hkind hname hopened hsame =>
    rw [hopened] at hbuilt
    exact hbuilt.pushClosing

/-- When no section is left open, all blocks are on one balanced level. -/
theorem Reads.balanced {hasher : Hasher} {b : Builder} {ts : List Token}
    (hreads : Reads hasher {} ts b) (hopened : b.opened = []) :
    Block.Balanced hasher b.blocks.toList := by
  have hbuilt : Block.HalfBuilt hasher b.blocks.toList b.opened :=
    hreads.keeps (P := fun b => Block.HalfBuilt hasher b.blocks.toList b.opened)
      (.level .nil) Step.halfBuilt
  rw [hopened] at hbuilt
  generalize b.blocks.toList = blocks at hbuilt ⊢
  cases hbuilt with
  | level hbs => exact hbs

end Builder

namespace Block

/-- The sections of some blocks, of which the first has a given index: the index of each opening
block, and that of the last block it counts. -/
def spans : Nat → List Block → List (Nat × Nat)
  | _, [] => []
  | i, b :: bs =>
    match b.tag with
    | .opening _ _ count => (i, i + count) :: spans (i + 1) bs
    | _ => spans (i + 1) bs

/-- The indices of the closing blocks. -/
def closings : Nat → List Block → List Nat
  | _, [] => []
  | i, b :: bs =>
    match b.tag with
    | .closing => i :: closings (i + 1) bs
    | _ => closings (i + 1) bs

theorem spans_append (i : Nat) (as bs : List Block) :
    spans i (as ++ bs) = spans i as ++ spans (i + as.length) bs := by
  induction as generalizing i with
  | nil => simp [spans]
  | cons a as ih =>
    simp only [List.cons_append, spans, ih, List.length_cons, Nat.add_right_comm i, Nat.add_assoc]
    split <;> simp

theorem closings_append (i : Nat) (as bs : List Block) :
    closings i (as ++ bs) = closings i as ++ closings (i + as.length) bs := by
  induction as generalizing i with
  | nil => simp [closings]
  | cons a as ih =>
    simp only [List.cons_append, closings, ih, List.length_cons, Nat.add_right_comm i, Nat.add_assoc]
    split <;> simp

/-- The closings of blocks are the places of their closing blocks. -/
theorem mem_closings_iff {i k : Nat} {bs : List Block} :
    k ∈ closings i bs ↔ ∃ j html, bs[j]? = some ⟨html, .closing⟩ ∧ k = i + j := by
  induction bs generalizing i with
  | nil => simp [closings]
  | cons b bs ih =>
    have hrest : (∃ j html, (b :: bs)[j + 1]? = some ⟨html, .closing⟩ ∧ k = i + (j + 1)) ↔
        k ∈ closings (i + 1) bs := by
      simp only [List.getElem?_cons_succ, ih, ← Nat.add_assoc, Nat.add_right_comm i _ 1]
    rw [← Nat.or_exists_add_one, hrest]
    obtain ⟨html, tag⟩ := b
    cases tag <;> simp [closings]

/-- The spans of blocks lead from an opening block as far as it counts. -/
theorem mem_spans_iff {i : Nat} {p : Nat × Nat} {bs : List Block} :
    p ∈ spans i bs ↔ ∃ j html inverted name count,
      bs[j]? = some ⟨html, .opening inverted name count⟩ ∧ p = (i + j, i + j + count) := by
  induction bs generalizing i with
  | nil => simp [spans]
  | cons b bs ih =>
    have hrest : (∃ j html inverted name count,
        (b :: bs)[j + 1]? = some ⟨html, .opening inverted name count⟩ ∧
          p = (i + (j + 1), i + (j + 1) + count)) ↔ p ∈ spans (i + 1) bs := by
      simp only [List.getElem?_cons_succ, ih, ← Nat.add_assoc, Nat.add_right_comm i _ 1]
    rw [← Nat.or_exists_add_one, hrest]
    obtain ⟨html, tag⟩ := b
    cases tag <;> simp [spans]

theorem closings_sorted (i : Nat) (bs : List Block) : (closings i bs).Pairwise (· < ·) := by
  induction bs generalizing i with
  | nil => exact .nil
  | cons b bs ih =>
    obtain ⟨html, tag⟩ := b
    cases tag with
    | closing =>
      refine List.pairwise_cons.2 ⟨fun k hk => ?_, ih (i + 1)⟩
      obtain ⟨j, _, _, rfl⟩ := mem_closings_iff.1 hk
      omega
    | _ => exact ih (i + 1)

/-- The sections of a section and what follows it: itself, those in its body, and those
    behind it. -/
theorem spans_nested (i : Nat) (html last : Text) (inverted : Bool) (name : FieldName)
    (body rest : List Block) :
    spans i (⟨html, .opening inverted name (body.length + 1)⟩ :: (body ++ ⟨last, .closing⟩ :: rest)) =
      (i, i + (body.length + 1)) ::
        (spans (i + 1) body ++ spans (i + (body.length + 1) + 1) rest) := by
  simp only [spans, spans_append, Nat.add_assoc, Nat.add_comm 1]

/-- The closing block of a section comes behind those of its body and before those of the rest. -/
theorem closings_nested (i : Nat) (html last : Text) (inverted : Bool) (name : FieldName)
    (body rest : List Block) :
    closings i
        (⟨html, .opening inverted name (body.length + 1)⟩ :: (body ++ ⟨last, .closing⟩ :: rest)) =
      closings (i + 1) body ++
        (i + (body.length + 1)) :: closings (i + (body.length + 1) + 1) rest := by
  simp only [closings, closings_append, Nat.add_assoc, Nat.add_comm 1]

/-- The closing blocks are, in some order, the last blocks of the sections. -/
theorem Balanced.spans_perm {hasher : Hasher} {bs : List Block} (hbs : Balanced hasher bs)
    (i : Nat) : ((spans i bs).map Prod.snd).Perm (closings i bs) := by
  induction hbs generalizing i with
  | nil => exact .nil
  | print hname hhash hrest ih => exact ih (i + 1)
  | nested hname hhash hbody hrest ihbody ihrest =>
    rw [spans_nested, closings_nested, List.map_cons, List.map_append]
    exact ((List.Perm.append (ihbody _) (ihrest _)).cons _).trans List.perm_middle.symm

/-- A section ends inside the blocks, behind its opening block. -/
theorem Balanced.span_bounds {hasher : Hasher} {bs : List Block} (hbs : Balanced hasher bs)
    {i : Nat} {p : Nat × Nat} (hp : p ∈ spans i bs) :
    i ≤ p.1 ∧ p.1 < p.2 ∧ p.2 < i + bs.length := by
  induction hbs generalizing i with
  | nil => cases hp
  | print hname hhash hrest ih =>
    have hbounds := ih (i := i + 1) hp
    rw [List.length_cons]
    omega
  | nested hname hhash hbody hrest ihbody ihrest =>
    rw [spans_nested, List.mem_cons, List.mem_append] at hp
    simp only [List.length_cons, List.length_append]
    rcases hp with rfl | hp | hp
    · simp only
      omega
    · have hbounds := ihbody hp
      omega
    · have hbounds := ihrest hp
      omega

/-- Two sections, the second of which opens later, are disjoint, or the second one is
    nested in the first. -/
def Apart (p q : Nat × Nat) : Prop := p.1 < q.1 ∧ (p.2 < q.1 ∨ q.2 < p.2)

/-- The spans of balanced blocks are nested or disjoint, the outer ones listed first. -/
theorem Balanced.spans_apart {hasher : Hasher} {bs : List Block} (hbs : Balanced hasher bs)
    (i : Nat) : (spans i bs).Pairwise Apart := by
  induction hbs generalizing i with
  | nil => exact .nil
  | print hname hhash hrest ih => exact ih (i + 1)
  | nested hname hhash hbody hrest ihbody ihrest =>
    rw [spans_nested, List.pairwise_cons, List.pairwise_append]
    refine ⟨fun p hp => ?_, ihbody _, ihrest _, fun p hp q hq => ?_⟩
    · rcases List.mem_append.1 hp with hp | hp
      · have hbounds := hbody.span_bounds hp
        exact ⟨by omega, .inr (by omega)⟩
      · have hbounds := hrest.span_bounds hp
        exact ⟨by omega, .inl (by omega)⟩
    · have hinside := hbody.span_bounds hp
      have hbehind := hrest.span_bounds hq
      exact ⟨by omega, .inl (by omega)⟩

/-- A section is an opening block, a balanced body, and a closing block. -/
theorem Balanced.split_at_span {hasher : Hasher} {bs : List Block} (hbs : Balanced hasher bs)
    {i : Nat} {p : Nat × Nat} (hp : p ∈ spans i bs) :
    ∃ before html inverted name body last behind, Balanced hasher body ∧
      bs = before ++ ⟨html, .opening inverted name (body.length + 1)⟩ ::
        (body ++ ⟨last, .closing⟩ :: behind) ∧
      p = (i + before.length, i + before.length + (body.length + 1)) := by
  induction hbs generalizing i with
  | nil => cases hp
  | @print text escaped shown rest hname hhash hrest ih =>
    obtain ⟨before, html, inverted, name, body, last, behind, hbody, rfl, rfl⟩ := ih hp
    refine ⟨⟨text, .print escaped shown⟩ :: before, html, inverted, name, body, last, behind, hbody,
      rfl, ?_⟩
    rw [List.length_cons, Nat.add_right_comm i 1, Nat.add_assoc i]
  | @nested text flag opened inner ending rest hname hhash hinner hrest ihinner ihrest =>
    rw [spans_nested, List.mem_cons, List.mem_append] at hp
    rcases hp with rfl | hp | hp
    · exact ⟨[], text, flag, opened, inner, ending, rest, hinner, rfl, rfl⟩
    · obtain ⟨before, html, inverted, name, body, last, behind, hbody, rfl, rfl⟩ := ihinner hp
      generalize hcount : (before ++ ⟨html, .opening inverted name (body.length + 1)⟩ ::
        (body ++ ⟨last, .closing⟩ :: behind)).length + 1 = count
      refine ⟨⟨text, .opening flag opened count⟩ :: before, html, inverted, name, body, last,
        behind ++ ⟨ending, .closing⟩ :: rest, hbody, by simp, ?_⟩
      rw [List.length_cons, Nat.add_right_comm i 1, Nat.add_assoc i]
    · obtain ⟨before, html, inverted, name, body, last, behind, hbody, rfl, rfl⟩ := ihrest hp
      refine ⟨⟨text, .opening flag opened (inner.length + 1)⟩ :: (inner ++ ⟨ending, .closing⟩ ::
        before), html, inverted, name, body, last, behind, hbody, by simp, ?_⟩
      simp only [List.length_cons, List.length_append, Prod.mk.injEq]
      omega

/-- Only the text behind all tags is a tail. -/
theorem Balanced.tag_ne_tail {hasher : Hasher} {bs : List Block} (hbs : Balanced hasher bs) :
    ∀ b ∈ bs, b.tag ≠ .tail := by
  induction hbs with
  | nil => simp
  | print hname hhash hrest ih => simpa using ih
  | nested hname hhash hbody hrest ihbody ihrest =>
    simp only [List.mem_cons, List.mem_append]
    rintro b (rfl | hb | rfl | hb)
    · simp
    · exact ihbody b hb
    · simp
    · exact ihrest b hb

/-- A name that a tag has is not empty, and comes with its hash. -/
theorem Balanced.named {hasher : Hasher} {bs : List Block} (hbs : Balanced hasher bs) :
    ∀ b ∈ bs, ∀ name, b.tag.name? = some name →
      name.text ≠ [] ∧ hasher name.text = some name.hash := by
  induction hbs with
  | nil => simp
  | print hname hhash hrest ih =>
    simp only [List.mem_cons]
    rintro b (rfl | hb) name hsome
    · cases hsome
      exact ⟨hname, hhash⟩
    · exact ih b hb name hsome
  | nested hname hhash hbody hrest ihbody ihrest =>
    simp only [List.mem_cons, List.mem_append]
    rintro b (rfl | hb | rfl | hb) name hsome
    · cases hsome
      exact ⟨hname, hhash⟩
    · exact ihbody b hb name hsome
    · cases hsome
    · exact ihrest b hb name hsome

/-- A section opens at one index, and the blocks it counts end at another. -/
def SpansFrom (bs : List Block) (i k : Nat) : Prop :=
  ∃ html inverted name count, bs[i]? = some ⟨html, .opening inverted name count⟩ ∧ k = i + count

theorem mem_spans_zero_iff {bs : List Block} {i k : Nat} :
    (i, k) ∈ spans 0 bs ↔ SpansFrom bs i k := by
  rw [mem_spans_iff, SpansFrom]
  simp only [Nat.zero_add, Prod.mk.injEq]
  constructor
  · rintro ⟨j, html, inverted, name, count, hblock, rfl, rfl⟩
    exact ⟨html, inverted, name, count, hblock, rfl⟩
  · rintro ⟨html, inverted, name, count, hblock, rfl⟩
    exact ⟨i, html, inverted, name, count, hblock, rfl, rfl⟩

/-- The shape of the blocks of a template. -/
structure WellFormed (hasher : Hasher) (bs : List Block) : Prop where
  /-- An opening block counts at least one block, and the last one it counts is there and closes. -/
  closed : ∀ i html inverted name count, bs[i]? = some ⟨html, .opening inverted name count⟩ →
    1 ≤ count ∧ i + count < bs.length ∧ ∃ last, bs[i + count]? = some ⟨last, .closing⟩
  /-- What stands between the two is balanced itself. -/
  enclosed : ∀ i k, SpansFrom bs i k → Balanced hasher ((bs.take k).drop (i + 1))
  /-- A closing block closes exactly one section. -/
  closes_one : ∀ k html, bs[k]? = some ⟨html, .closing⟩ → ∃! i, SpansFrom bs i k
  /-- There are as many closing blocks as sections. -/
  same_number : (closings 0 bs).length = (spans 0 bs).length
  /-- Of two sections, one that opens later is disjoint from the other or nested in it. -/
  nested_or_disjoint : ∀ i k j l, SpansFrom bs i k → SpansFrom bs j l → i < j → k < j ∨ l < k
  /-- No blocks belong to a block that opens no section. -/
  childless : ∀ b ∈ bs, (∀ inverted name count, b.tag ≠ .opening inverted name count) →
    b.tag.children = 0
  /-- Literal text behind the last tag comes last, and is not empty. -/
  tail_last : ∀ i html, bs[i]? = some ⟨html, .tail⟩ → i + 1 = bs.length ∧ html ≠ []
  /-- A variable or a section has a name, and the hash of it. -/
  named : ∀ b ∈ bs, b.tag ≠ .closing → b.tag ≠ .tail → ∃ name, b.tag.name? = some name ∧
    name.text ≠ [] ∧ hasher name.text = some name.hash
  /-- A closing block and text behind the last tag have none. -/
  nameless : ∀ b ∈ bs, b.tag = .closing ∨ b.tag = .tail → b.tag.name? = none

/-- Literal text behind the last tag, if there is any. -/
inductive Tail : List Block → Prop where
  | none : Tail []
  | text {html : Text} (hhtml : html ≠ []) : Tail [⟨html, .tail⟩]

/-- The block of the text behind the last tag, if there is any. -/
def behindTags (html : Text) : List Block := if html = [] then [] else [⟨html, .tail⟩]

theorem tail_behindTags (html : Text) : Tail (behindTags html) := by
  unfold behindTags
  split
  · exact .none
  · rename_i hhtml
    exact .text hhtml

theorem Tail.spans_eq {tail : List Block} (htail : Tail tail) (i : Nat) : spans i tail = [] := by
  cases htail <;> rfl

theorem Tail.closings_eq {tail : List Block} (htail : Tail tail) (i : Nat) :
    closings i tail = [] := by
  cases htail <;> rfl

theorem drop_take_between (before body behind : List Block) (b : Block) :
    ((before ++ b :: (body ++ behind)).take (before.length + (body.length + 1))).drop
      (before.length + 1) = body := by
  simp [List.take_append, List.drop_append, List.take_of_length_le, List.drop_of_length_le]

/-- Of two sections the one that starts later ends before the other one does, or starts behind its
end. -/
theorem Balanced.nested_or_disjoint {hasher : Hasher} {bs : List Block} (hbs : Balanced hasher bs)
    {p q : Nat × Nat} (hp : p ∈ spans 0 bs) (hq : q ∈ spans 0 bs) (hlt : p.1 < q.1) :
    p.2 < q.1 ∨ q.2 < p.2 := by
  have hapart := hbs.spans_apart 0
  -- The sections are listed as they open, but the two may be picked in either order.
  have hforward : (spans 0 bs).Pairwise fun p q => p.1 < q.1 → p.2 < q.1 ∨ q.2 < p.2 :=
    hapart.imp fun h _ => h.2
  have hbackward : (spans 0 bs).Pairwise (flip fun p q => p.1 < q.1 → p.2 < q.1 ∨ q.2 < p.2) :=
    hapart.imp fun h hlt => absurd h.1 (Nat.lt_asymm hlt)
  have hself : ∀ p ∈ spans 0 bs, p.1 < p.1 → p.2 < p.1 ∨ p.2 < p.2 :=
    fun p _ hlt => absurd hlt (Nat.lt_irrefl p.1)
  exact hforward.forall_of_forall_of_flip hself hbackward hp hq hlt

/-- Each closing block is the end of one section. -/
theorem Balanced.existsUnique_span {hasher : Hasher} {bs : List Block} (hbs : Balanced hasher bs)
    {k : Nat} (hclosing : k ∈ closings 0 bs) : ∃! i, (i, k) ∈ spans 0 bs := by
  obtain ⟨⟨i, _⟩, hspan, rfl⟩ := List.mem_map.1 ((hbs.spans_perm 0).mem_iff.2 hclosing)
  have hnodup : ((spans 0 bs).map Prod.snd).Nodup :=
    (hbs.spans_perm 0).nodup_iff.2 ((closings_sorted 0 bs).imp Nat.ne_of_lt)
  exact ⟨i, hspan, fun j hj => congrArg Prod.fst (List.inj_on_of_nodup_map hnodup hj hspan rfl)⟩

/-- Behind balanced blocks literal text is the last block. -/
theorem Balanced.tail_last {hasher : Hasher} {bs tail : List Block} (hbs : Balanced hasher bs)
    (htail : Tail tail) {i : Nat} {html : Text}
    (hblock : (bs ++ tail)[i]? = some ⟨html, .tail⟩) :
    i + 1 = (bs ++ tail).length ∧ html ≠ [] := by
  by_cases hinside : i < bs.length
  · rw [List.getElem?_append_left hinside] at hblock
    exact absurd rfl (hbs.tag_ne_tail _ (List.mem_of_getElem? hblock))
  · rw [List.getElem?_append_right (by omega)] at hblock
    cases htail with
    | none => simp at hblock
    | text hhtml =>
      rw [List.getElem?_singleton] at hblock
      split at hblock
      · cases hblock
        rw [List.length_append, List.length_singleton]
        exact ⟨by omega, hhtml⟩
      · cases hblock

/-- Only closing blocks and literal text have no name. -/
theorem exists_name_of_ne {tag : Tag} (hclosing : tag ≠ .closing) (htext : tag ≠ .tail) :
    ∃ name, tag.name? = some name := by
  cases tag with
  | print escaped name => exact ⟨name, rfl⟩
  | opening inverted name count => exact ⟨name, rfl⟩
  | closing => exact absurd rfl hclosing
  | tail => exact absurd rfl htext

/-- Balanced blocks with literal text behind them have the shape of a template. -/
theorem Balanced.wellFormed {hasher : Hasher} {bs tail : List Block} (hbs : Balanced hasher bs)
    (htail : Tail tail) : WellFormed hasher (bs ++ tail) := by
  have hspans : spans 0 (bs ++ tail) = spans 0 bs := by
    rw [spans_append, htail.spans_eq, List.append_nil]
  have hclosings : closings 0 (bs ++ tail) = closings 0 bs := by
    rw [closings_append, htail.closings_eq, List.append_nil]
  have hfrom : ∀ {i k}, SpansFrom (bs ++ tail) i k ↔ (i, k) ∈ spans 0 bs := by
    intro i k
    rw [← hspans, mem_spans_zero_iff]
  exact {
    closed := by
      intro i html inverted name count hblock
      have hspan := hfrom.1 ⟨html, inverted, name, count, hblock, rfl⟩
      have hbounds := hbs.span_bounds hspan
      have hclosing := (hbs.spans_perm 0).mem_iff.1 (List.mem_map_of_mem hspan)
      obtain ⟨k, last, hlast, hk⟩ := mem_closings_iff.1 hclosing
      simp only [Nat.zero_add] at hk hbounds
      refine ⟨by omega, by rw [List.length_append]; omega, last, ?_⟩
      rw [List.getElem?_append_left (by omega), hk, hlast]
    enclosed := by
      intro i k hspan
      obtain ⟨before, html, inverted, name, body, last, behind, hbody, rfl, hik⟩ :=
        hbs.split_at_span (hfrom.1 hspan)
      simp only [Nat.zero_add, Prod.mk.injEq] at hik
      obtain ⟨rfl, rfl⟩ := hik
      rw [List.append_assoc, List.cons_append, List.append_assoc, drop_take_between]
      exact hbody
    closes_one := by
      intro k html hblock
      have hclosing : k ∈ closings 0 bs := by
        rw [← hclosings, mem_closings_iff]
        exact ⟨k, html, hblock, (Nat.zero_add k).symm⟩
      obtain ⟨i, hspan, honly⟩ := hbs.existsUnique_span hclosing
      exact ⟨i, hfrom.2 hspan, fun j hj => honly j (hfrom.1 hj)⟩
    same_number := by rw [hspans, hclosings, ← (hbs.spans_perm 0).length_eq, List.length_map]
    nested_or_disjoint := fun i k j l hi hj => hbs.nested_or_disjoint (hfrom.1 hi) (hfrom.1 hj)
    childless := by
      intro b hb hopening
      cases htag : b.tag with
      | opening inverted name count => exact absurd htag (hopening inverted name count)
      | _ => rfl
    tail_last := fun i html => hbs.tail_last htail
    named := by
      intro b hb hclosing htext
      obtain ⟨name, hsome⟩ := exists_name_of_ne hclosing htext
      rcases List.mem_append.1 hb with hb | hb
      · exact ⟨name, hsome, hbs.named b hb name hsome⟩
      · cases htail with
        | none => cases hb
        | text hhtml => simp_all
    nameless := by rintro b hb (htag | htag) <;> rw [htag] <;> rfl }

end Block

namespace Builder

theorem finished_eq (b : Builder) :
    b.finished.toList = b.blocks.toList ++ Block.behindTags b.pending.reverse := by
  unfold finished Block.behindTags
  by_cases hempty : b.pending = []
  · simp [hempty]
  · simp [hempty, push]

/-- The blocks of a source that leaves no section open are well formed. -/
theorem Reads.wellFormed {hasher : Hasher} {b : Builder} {ts : List Token}
    (hreads : Reads hasher {} ts b) (hopened : b.opened = []) :
    Block.WellFormed hasher b.finished.toList := by
  rw [finished_eq]
  exact (hreads.balanced hopened).wellFormed (Block.tail_behindTags _)

end Builder

/-- The blocks of a source have the shape of a template. -/
theorem Template.wellFormed_of_compile {hasher : Hasher} {source : Text} {t : Template}
    (hcompile : compileWith hasher source = .ok t) : Block.WellFormed hasher t.blocks := by
  obtain ⟨b, hreads, hopened, rfl⟩ := compileWith_eq_ok_iff.1 hcompile
  have hbalanced := hreads.balanced hopened
  by_cases hpending : b.pending = []
  · have hshape := hbalanced.wellFormed .none
    simpa [Builder.finished, hpending] using hshape
  · have htail : Block.Tail [⟨b.pending.reverse, .tail⟩] := .text (by simpa using hpending)
    have hshape := hbalanced.wellFormed htail
    simpa [Builder.finished, hpending, Builder.push] using hshape

/-- A section inside a section, and text behind both. -/
theorem Template.wellFormed_of_compile_nested :
    compileWith (Hasher.constant 0)
        (Text.of "\x7b\x7b#x\x7d\x7d\x7b\x7b^y\x7d\x7da\x7b\x7b/y\x7d\x7d\x7b\x7b/x\x7d\x7db") =
        .ok ⟨[⟨[], .opening false ⟨Text.of "x", 0⟩ 3⟩, ⟨[], .opening true ⟨Text.of "y", 0⟩ 1⟩,
          ⟨Text.of "a", .closing⟩, ⟨[], .closing⟩, ⟨Text.of "b", .tail⟩]⟩ ∧
      Block.WellFormed (Hasher.constant 0)
        [⟨[], .opening false ⟨Text.of "x", 0⟩ 3⟩, ⟨[], .opening true ⟨Text.of "y", 0⟩ 1⟩,
          ⟨Text.of "a", .closing⟩, ⟨[], .closing⟩, ⟨Text.of "b", .tail⟩] := by
  have hcompile : compileWith (Hasher.constant 0)
      (Text.of "\x7b\x7b#x\x7d\x7d\x7b\x7b^y\x7d\x7da\x7b\x7b/y\x7d\x7d\x7b\x7b/x\x7d\x7db") =
      .ok ⟨[⟨[], .opening false ⟨Text.of "x", 0⟩ 3⟩, ⟨[], .opening true ⟨Text.of "y", 0⟩ 1⟩,
        ⟨Text.of "a", .closing⟩, ⟨[], .closing⟩, ⟨Text.of "b", .tail⟩]⟩ := by decide
  exact ⟨hcompile, wellFormed_of_compile hcompile⟩

end Stencil
