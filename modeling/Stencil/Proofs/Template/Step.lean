import Stencil.Template.Basic

namespace Stencil

namespace CompileError

theorem map_hashed_eq_ok_iff {α : Type} {hasher : Hasher} {name : Text} {f : FieldName → α} {a : α} :
    (hashed hasher name).map f = .ok a ↔ ∃ hash, hasher name = some hash ∧ f ⟨name, hash⟩ = a := by
  unfold hashed
  cases hasher name <;> simp [Except.map]

end CompileError

namespace Builder

/-- What a token does to a builder that takes it in. -/
inductive Step (hasher : Hasher) (b : Builder) : Token → Builder → Prop where
  | char (c : CodePoint) : Step hasher b (.char c) { b with pending := c :: b.pending }
  | comment {t : Tag} {offset : Nat} (hkind : t.kind = .comment) : Step hasher b (.tag t offset) b
  | print {t : Tag} {offset : Nat} {escaped : Bool} {hash : Hash} (hkind : t.kind = .print escaped)
      (hname : t.name ≠ []) (hhash : hasher t.name = some hash) :
      Step hasher b (.tag t offset) (b.push (.print escaped ⟨t.name, hash⟩))
  | opening {t : Tag} {offset : Nat} {inverted : Bool} {hash : Hash}
      (hkind : t.kind = .opening inverted) (hname : t.name ≠ [])
      (hhash : hasher t.name = some hash) :
      Step hasher b (.tag t offset) (b.openSection inverted ⟨t.name, hash⟩ offset)
  | closing {t : Tag} {offset : Nat} {o : Open} {rest : List Open} (hkind : t.kind = .closing)
      (hname : t.name ≠ []) (hopened : b.opened = o :: rest) (hsame : o.name = t.name) :
      Step hasher b (.tag t offset) ⟨b.pushClosing o.index, rest, []⟩

/-- A section is closed only by its own name, and then its opening block is told how many blocks
belong to it. -/
theorem close_eq_ok_iff {b b' : Builder} {name : Text} {offset : Nat} :
    b.close name offset = .ok b' ↔
      ∃ o rest, b.opened = o :: rest ∧ o.name = name ∧ b' = ⟨b.pushClosing o.index, rest, []⟩ := by
  unfold close
  cases hopened : b.opened with
  | nil => simp [CompileError.fail]
  | cons o rest =>
    by_cases hsame : o.name = name
    · simp only [hsame, ne_eq, not_true_eq_false, if_false, Except.ok.injEq]
      constructor
      · rintro rfl
        exact ⟨o, rest, rfl, hsame, rfl⟩
      · rintro ⟨_, _, ⟨⟩, _, rfl⟩
        rfl
    · simp only [hsame, ne_eq, not_false_eq_true, if_true]
      constructor
      · rintro ⟨⟩
      · rintro ⟨_, _, ⟨⟩, hname, _⟩
        exact absurd hname hsame

/-- Taking a tag in does what the steps say, and nothing else succeeds. -/
theorem takeTag_eq_ok_iff {hasher : Hasher} {b b' : Builder} {t : Tag} {offset : Nat} :
    b.takeTag hasher t offset = .ok b' ↔ Step hasher b (.tag t offset) b' := by
  unfold takeTag
  constructor
  · intro htake
    split at htake
    · cases htake
    · rename_i hnamed
      have hname : t.kind ≠ .comment → t.name ≠ [] := fun hkind hempty => hnamed ⟨hkind, hempty⟩
      split at htake
      · rename_i hkind
        cases htake
        exact .comment hkind
      · rename_i hkind
        obtain ⟨o, rest, hopened, hsame, rfl⟩ := close_eq_ok_iff.1 htake
        exact .closing hkind (hname (by simp [hkind])) hopened hsame
      · rename_i escaped hkind
        obtain ⟨hash, hhash, rfl⟩ := CompileError.map_hashed_eq_ok_iff.1 htake
        exact .print hkind (hname (by simp [hkind])) hhash
      · rename_i inverted hkind
        obtain ⟨hash, hhash, rfl⟩ := CompileError.map_hashed_eq_ok_iff.1 htake
        exact .opening hkind (hname (by simp [hkind])) hhash
  · intro hstep
    cases hstep with
    | comment hkind => simp [hkind]
    | print hkind hname hhash =>
      simp [hkind, hname, CompileError.hashed, hhash, Except.map]
    | opening hkind hname hhash =>
      simp [hkind, hname, CompileError.hashed, hhash, Except.map]
    | closing hkind hname hopened hsame =>
      simp only [hkind, hname, and_false, if_false]
      exact close_eq_ok_iff.2 ⟨_, _, hopened, hsame, rfl⟩

/-- The steps are exactly what taking a token in does where it succeeds. -/
theorem take_eq_ok_iff {hasher : Hasher} {b b' : Builder} {t : Token} :
    b.take hasher t = .ok b' ↔ Step hasher b t b' := by
  cases t with
  | char c =>
    constructor
    · rintro ⟨⟩
      exact .char c
    · rintro ⟨⟩
      rfl
  | unclosed offset =>
    constructor
    · rintro ⟨⟩
    · rintro ⟨⟩
  | tag t offset => exact takeTag_eq_ok_iff

theorem modify_append_cons (f : Block → Block) (as : List Block) (b : Block) (bs : List Block) :
    (as ++ b :: bs).modify as.length f = as ++ f b :: bs := by
  induction as with
  | nil => rfl
  | cons a as ih => rw [List.cons_append, List.length_cons, List.modify_succ_cons, ih]; rfl

/-- The closing block is put down behind what the section holds, and its opening block
    is told to count both. -/
theorem toList_pushClosing {b : Builder} {before inside : List Block} {opening : Block}
    (hblocks : b.blocks.toList = before ++ opening :: inside) :
    (b.pushClosing before.length).toList =
      before ++ opening.withChildren (inside.length + 1) ::
        (inside ++ [⟨b.pending.reverse, .closing⟩]) := by
  have hpushed : (b.push .closing).blocks.toList =
      before ++ opening :: (inside ++ [⟨b.pending.reverse, .closing⟩]) := by
    simp [push, hblocks]
  have hcount : (b.push .closing).blocks.size - before.length - 1 = inside.length + 1 := by
    rw [← Array.length_toList, hpushed]
    simp only [List.length_append, List.length_cons, List.length_nil]
    omega
  rw [pushClosing, hcount, Array.toList_modify, hpushed, modify_append_cons]

/-- A builder takes in some tokens one after another. -/
inductive Reads (hasher : Hasher) : Builder → List Token → Builder → Prop where
  | nil (b : Builder) : Reads hasher b [] b
  | cons {b b' b'' : Builder} {t : Token} {ts : List Token} (hstep : Step hasher b t b')
      (hreads : Reads hasher b' ts b'') : Reads hasher b (t :: ts) b''

/-- Taking tokens in one after another succeeds exactly along a run of steps. -/
theorem foldlM_take_eq_ok_iff {hasher : Hasher} {b b' : Builder} {ts : List Token} :
    ts.foldlM (take hasher) b = .ok b' ↔ Reads hasher b ts b' := by
  induction ts generalizing b with
  | nil =>
    constructor
    · rintro ⟨⟩
      exact .nil _
    · rintro ⟨⟩
      rfl
  | cons t ts ih =>
    rw [List.foldlM_cons]
    constructor
    · intro hread
      cases htake : b.take hasher t with
      | error e => simp [htake, Bind.bind, Except.bind] at hread
      | ok c =>
        rw [htake] at hread
        exact .cons (take_eq_ok_iff.1 htake) (ih.1 hread)
    · intro hreads
      cases hreads with
      | cons hstep hreads =>
        rw [take_eq_ok_iff.2 hstep]
        exact ih.2 hreads

/-- What every step keeps holds of all that is read. -/
theorem Reads.keeps {hasher : Hasher} {b b' : Builder} {ts : List Token} {P : Builder → Prop}
    (hreads : Reads hasher b ts b') (hstart : P b)
    (hkeep : ∀ {b b' t}, Step hasher b t b' → P b → P b') : P b' := by
  induction hreads with
  | nil => exact hstart
  | cons hstep hreads ih => exact ih (hkeep hstep hstart)

/-- The blocks that are left when everything is read and no section is open. -/
def finished (b : Builder) : Array Block :=
  if b.pending = [] then b.blocks else (b.push .tail).blocks

/-- A source has blocks if its tokens can be read to the end with no section left open. -/
theorem build_eq_ok_iff {hasher : Hasher} {source : Text} {blocks : Array Block} :
    build hasher source = .ok blocks ↔
      ∃ b, Reads hasher {} (Token.scan source) b ∧ b.opened = [] ∧ blocks = b.finished := by
  unfold build
  cases hread : (Token.scan source).foldlM (take hasher) {} with
  | error e =>
    simp only [Bind.bind, Except.bind, reduceCtorEq, false_iff]
    rintro ⟨b, hreads, _⟩
    simp [foldlM_take_eq_ok_iff.2 hreads] at hread
  | ok b =>
    have hreads := foldlM_take_eq_ok_iff.1 hread
    simp only [Bind.bind, Except.bind, finish]
    constructor
    · intro hfinish
      split at hfinish
      · rename_i hopened
        cases hfinish
        exact ⟨b, hreads, hopened, rfl⟩
      · cases hfinish
    · rintro ⟨c, hreads', hopened, rfl⟩
      have hsame : b = c := by
        have := foldlM_take_eq_ok_iff.2 hreads'
        rw [hread] at this
        exact Except.ok.inj this
      subst hsame
      simp [hopened, finished]

end Builder

/-- A source compiles if its tokens can be read to the end with no section left open, to the blocks
that are there then. -/
theorem Template.compileWith_eq_ok_iff {hasher : Hasher} {source : Text} {t : Template} :
    compileWith hasher source = .ok t ↔
      ∃ b, Builder.Reads hasher {} (Token.scan source) b ∧ b.opened = [] ∧
        t = ⟨b.finished.toList⟩ := by
  unfold compileWith
  constructor
  · intro hcompile
    cases hbuild : Builder.build hasher source with
    | error e => simp [hbuild, Except.map] at hcompile
    | ok blocks =>
      obtain ⟨b, hreads, hopened, rfl⟩ := Builder.build_eq_ok_iff.1 hbuild
      simp only [hbuild, Except.map, Except.ok.injEq] at hcompile
      exact ⟨b, hreads, hopened, hcompile.symm⟩
  · rintro ⟨b, hreads, hopened, rfl⟩
    rw [Builder.build_eq_ok_iff.2 ⟨b, hreads, hopened, rfl⟩]
    rfl

end Stencil
