import Stencil.Proofs.Render.Walk
import Stencil.Proofs.Template.Relocation
import Stencil.Proofs.Template.Spans
import Stencil.Proofs.Value.Hint
import Stencil.Sink.Buffer

namespace Stencil

namespace Block

variable {hasher : Hasher} {bs : List Block}

theorem Balanced.lead (hbs : Balanced hasher bs) (t : Text) :
    Balanced hasher (Block.lead t bs) := by
  cases hbs with
  | nil => exact .nil
  | print hname hhash hrest => exact .print hname hhash hrest
  | nested hname hhash hbody hrest => exact .nested hname hhash hbody hrest

/-- A walk over a closing block alone writes its literal text. -/
theorem walk_closing (convert : Conversion) (last : Text) (rest : List Block) (v : Value) :
    walk convert (⟨last, .closing⟩ :: rest) 0 1 v = writeHtml last := by
  simp [walk, Tag.children]

/-- A walk goes through balanced blocks and then through what stands behind them. -/
theorem Balanced.walk_append (hbs : Balanced hasher bs) (convert : Conversion) (rest : List Block)
    (count : Nat) (v : Value) :
    walk convert (bs ++ rest) 0 (bs.length + count) v =
      (walk convert bs 0 bs.length v).andThen (walk convert rest 0 count v) := by
  induction hbs generalizing rest count v with
  | nil => simp
  | @print html escaped name bs hname hhash hbs ih =>
    have hrest := ih rest count v
    rw [List.cons_append, List.length_cons, Nat.add_right_comm, walk, walk]
    simp only [Tag.children, hrest, Script.andThen_assoc]
  | @nested html inverted name body last bs hname hhash hbody hbs ihbody ih =>
    -- The body ends with its closing block, whatever stands behind that.
    have honce : ∀ tail w, walk convert (body ++ ⟨last, .closing⟩ :: tail) 0 (body.length + 1) w =
        (walk convert body 0 body.length w).andThen (writeHtml last) := by
      intro tail w
      rw [ihbody, walk_closing]
    have hwhole := walk_section (honce (bs ++ rest)) html inverted name (bs.length + count) v
    have hhere := walk_section (honce bs) html inverted name bs.length v
    have hlength : (⟨html, .opening inverted name (body.length + 1)⟩ ::
        (body ++ ⟨last, .closing⟩ :: bs) : List Block).length = body.length + 1 + bs.length + 1 := by
      simp only [List.length_cons, List.length_append]
      omega
    have hcount : body.length + 1 + bs.length + 1 + count =
        body.length + 1 + (bs.length + count) + 1 := by omega
    rw [hlength, hhere, hcount, List.cons_append, List.append_assoc, List.cons_append, hwhole,
      ih rest count v, Script.andThen_assoc _ (walk convert bs 0 bs.length v)]

/-- What a section runs for one item: its body, and the literal text before its closing tag. -/
theorem Balanced.walk_body (hbs : Balanced hasher bs) (convert : Conversion) (last : Text)
    (rest : List Block) (v : Value) :
    walk convert (bs ++ ⟨last, .closing⟩ :: rest) 0 (bs.length + 1) v =
      (walk convert bs 0 bs.length v).andThen (writeHtml last) := by
  rw [hbs.walk_append, walk_closing]

@[simp] theorem text_writeHtml (t : Text) : (writeHtml t).run.text = pure t := by
  unfold writeHtml
  split
  · rename_i hempty
    rw [hempty]
    rfl
  · simp [Request.run, Run.write, Run.text, Pure.pure, Except.pure]

/-- Literal text put before the first block comes before all that the blocks write. -/
theorem text_walk_lead (convert : Conversion) (t : Text) (hbs : bs ≠ []) (v : Value) :
    (walk convert (Block.lead t bs) 0 bs.length v).run.text = do
      let s ← (walk convert bs 0 bs.length v).run.text
      return t ++ s := by
  cases bs with
  | nil => exact absurd rfl hbs
  | cons b bs =>
    rw [Block.lead, List.length_cons, walk, walk]
    simp only [Script.run_andThen, Run.text_andThen, text_writeHtml, pure_bind, bind_assoc,
      List.append_assoc]

end Block

namespace Template

/-- The literal size of blocks is added up. -/
theorem literalSize_append (as bs : List Block) :
    literalSize ⟨as ++ bs⟩ = literalSize ⟨as⟩ + literalSize ⟨bs⟩ := by
  induction as with
  | nil => simp [literalSize]
  | cons a as ih =>
    simp only [literalSize, List.cons_append, List.foldr_cons] at ih ⊢
    rw [ih, Nat.add_assoc]

theorem literalSize_lead (t : Text) {bs : List Block} (hbs : bs ≠ []) :
    literalSize ⟨Block.lead t bs⟩ = t.utf8Size + literalSize ⟨bs⟩ := by
  cases bs with
  | nil => exact absurd rfl hbs
  | cons b bs =>
    simp only [literalSize, Block.lead, List.foldr_cons, Text.utf8Size_append, Nat.add_assoc]

end Template

namespace Builder

variable {hasher : Hasher} {a b : Builder}

/-- The template of the blocks that are left when everything is read. -/
def template (b : Builder) : Template := ⟨b.finished.toList⟩

theorem literalSize_template (b : Builder) :
    b.template.literalSize =
      Template.literalSize ⟨b.blocks.toList⟩ + Text.utf8Size b.pending.reverse := by
  have htail : ∀ t : Text, Template.literalSize ⟨[⟨t, .tail⟩]⟩ = t.utf8Size := fun t => rfl
  unfold template finished
  split
  · rename_i hempty
    rw [hempty]
    rfl
  · rw [push, Array.toList_push, Template.literalSize_append, htail]

/-- The blocks of a builder are walked, and then what is left of its literal text. -/
theorem script_template (hb : Block.Balanced hasher b.blocks.toList) (convert : Conversion)
    (v : Value) :
    b.template.script convert v =
      (Block.walk convert b.blocks.toList 0 b.blocks.toList.length v).andThen
        (Block.writeHtml b.pending.reverse) := by
  unfold template finished
  split
  · rename_i hempty
    simp [Template.script, Template.size, hempty, Block.writeHtml]
  · have htail := hb.walk_append convert [⟨b.pending.reverse, .tail⟩] 1 v
    simp only [Template.script, Template.size, push, Array.toList_push, List.length_append,
      List.length_singleton, htail]
    simp [Block.walk, Block.Tag.children]

/-- A template that is built behind another one has the literal text of both. -/
theorem literalSize_behind (a b : Builder) (count : Nat) :
    (a.behind count b).template.literalSize =
      a.template.literalSize + b.template.literalSize := by
  obtain ⟨⟨blocks⟩, opened, pending⟩ := b
  simp only [literalSize_template, behind, Array.toList_append]
  cases blocks with
  | nil => simp [Block.lead, Template.literalSize, Nat.add_assoc]
  | cons c blocks =>
    rw [Template.literalSize_append, Template.literalSize_lead _ (List.cons_ne_nil c blocks)]
    simp
    omega

/-- What is rendered of blocks that are read behind others follows what is rendered of those. -/
theorem text_render_behind (ha : Block.Balanced hasher a.blocks.toList)
    (hb : Block.Balanced hasher b.blocks.toList) (count : Nat) (convert : Conversion) (v : Value) :
    ((a.behind count b).template.render convert v).text = do
      let s ← (a.template.render convert v).text
      let t ← (b.template.render convert v).text
      return s ++ t := by
  obtain ⟨⟨blocks⟩, opened, pending⟩ := b
  have hbehind : Block.Balanced hasher
      (a.behind count ⟨⟨blocks⟩, opened, pending⟩).blocks.toList := by
    simpa [behind] using ha.append (hb.lead _)
  rw [Template.render, Template.render, Template.render, script_template hbehind,
    script_template ha, script_template hb]
  simp only [behind, Array.toList_append, Script.run_andThen]
  -- Pending text goes before the first new block; without one it stays pending.
  cases blocks with
  | nil => simp [Block.lead, Run.text_andThen, Block.walk]
  | cons c blocks =>
    have hblocks : c :: blocks ≠ [] := List.cons_ne_nil c blocks
    rw [List.length_append, Block.length_lead, ha.walk_append]
    simp only [Script.run_andThen, Run.text_andThen, Block.text_walk_lead convert _ hblocks,
      Block.text_writeHtml]
    simp

end Builder

namespace Template

variable {hasher : Hasher} {u v : Text} {t s : Template}

/-- A source that can be read by itself: it compiles, it does not end with an opening brace, and no
variable that is shown with entities has a name that begins with one. -/
structure SelfContained (hasher : Hasher) (source : Text) (t : Template) : Prop where
  compiles : compileWith hasher source = .ok t
  ending : source.getLast? ≠ some Tag.openBrace
  unbraced : ∀ name offset, Token.tag ⟨.print true, name⟩ offset ∈ Token.scan source →
    name.head? ≠ some Tag.openBrace

/-- A self-contained source is read alike whatever follows. -/
theorem SelfContained.isSealed (hu : SelfContained hasher u t) : Token.Sealed u := by
  refine ⟨hu.ending, fun token htoken => ?_⟩
  cases token with
  | char c => trivial
  | tag tag offset =>
    obtain ⟨kind, name⟩ := tag
    rintro rfl
    exact hu.unbraced name offset htoken
  | unclosed offset =>
    obtain ⟨a, hreads, -, -⟩ := compileWith_eq_ok_iff.1 hu.compiles
    exact hreads.not_mem_unclosed offset htoken

/-- What is refused by itself is refused behind such a source, as many code points later. -/
theorem SelfContained.refused_behind (hu : SelfContained hasher u t) {e : CompileError}
    (hv : compileWith hasher v = .error e) :
    compileWith hasher (u ++ v) = .error (e.shift u.length) := by
  obtain ⟨a, ha, hopened, -⟩ := compileWith_eq_ok_iff.1 hu.compiles
  rw [compileWith_eq_error_iff] at hv ⊢
  rcases hv with hread | ⟨b, hb, hfinish⟩
  · exact .inl (Builder.foldlM_take_scan_append_of_error hu.isSealed ha hopened hread)
  · exact .inr ⟨_, ha.scan_append hu.isSealed hb, Builder.finish_behind_of_error hfinish⟩

/-- A source that compiles also does behind a self-contained one: its blocks come behind the blocks
of that. -/
theorem SelfContained.accepted_behind (hu : SelfContained hasher u t)
    (hv : compileWith hasher v = .ok s) :
    ∃ a b : Builder, Block.Balanced hasher a.blocks.toList ∧
      Block.Balanced hasher b.blocks.toList ∧ t = a.template ∧ s = b.template ∧
      compileWith hasher (u ++ v) = .ok (a.behind u.length b).template := by
  obtain ⟨a, ha, hopened, rfl⟩ := compileWith_eq_ok_iff.1 hu.compiles
  obtain ⟨b, hb, hclosed, rfl⟩ := compileWith_eq_ok_iff.1 hv
  have hreads := ha.scan_append hu.isSealed hb
  have hnone : (a.behind u.length b).opened = [] := by simp [Builder.behind, hclosed, hopened]
  exact ⟨a, b, ha.balanced hopened, hb.balanced hclosed, rfl, rfl,
    compileWith_eq_ok_iff.2 ⟨_, hreads, hnone, rfl⟩⟩

theorem bind_append_mapError (x y : Except Fault Text) :
    (do
      let a ← x
      let b ← y
      return a ++ b).mapError Failure.fault = do
      let a ← x.mapError Failure.fault
      let b ← y.mapError Failure.fault
      return a ++ b := by
  cases x <;> cases y <;> rfl

/-- Behind a source that can be read by itself, another one is accepted or refused as it is by
itself, an error is found as many code points later, the literal texts add up, and what the second
one renders of a value follows what the first one renders. -/
theorem compileWith_append (hu : SelfContained hasher u t) (v : Text) :
    ((∃ r, compileWith hasher (u ++ v) = .ok r) ↔ ∃ s, compileWith hasher v = .ok s) ∧
    (∀ e, compileWith hasher v = .error e →
      compileWith hasher (u ++ v) = .error (e.shift u.length)) ∧
    ∀ r s, compileWith hasher (u ++ v) = .ok r → compileWith hasher v = .ok s →
      r.literalSize = t.literalSize + s.literalSize ∧
      ∀ convert x, r.renderText convert x = do
        let a ← t.renderText convert x
        let b ← s.renderText convert x
        return a ++ b := by
  refine ⟨⟨fun ⟨r, hr⟩ => ?_, fun ⟨s, hs⟩ => ?_⟩, fun e he => hu.refused_behind he,
    fun r s hr hs => ?_⟩
  · cases hv : compileWith hasher v with
    | ok s => exact ⟨s, rfl⟩
    | error e =>
      rw [hu.refused_behind hv] at hr
      cases hr
  · obtain ⟨a, b, -, -, -, -, hcompile⟩ := hu.accepted_behind hs
    exact ⟨_, hcompile⟩
  · obtain ⟨a, b, ha, hb, rfl, rfl, hcompile⟩ := hu.accepted_behind hs
    rw [hcompile] at hr
    cases hr
    refine ⟨Builder.literalSize_behind a b u.length, fun convert x => ?_⟩
    rw [renderText_eq, renderText_eq, renderText_eq, ← bind_append_mapError]
    rcases capacity_cases x with hcapacity | ⟨f, hcapacity⟩
    · rw [renderWith_of_capacity (hcapacity _).choose_spec,
        renderWith_of_capacity (hcapacity _).choose_spec,
        renderWith_of_capacity (hcapacity _).choose_spec,
        Builder.text_render_behind ha hb u.length convert x]
    · simp only [renderWith, scriptWith_of_fault (hcapacity _)]
      rfl

/-- A variable between literal texts, and behind it a section or a stray closing tag. -/
theorem compileWith_append_section :
    let u := Text.of "a\x7b\x7bx\x7d\x7db"
    let v := Text.of "c\x7b\x7b#y\x7d\x7d<\x7b\x7b.\x7d\x7d>\x7b\x7b/y\x7d\x7d"
    let t : Template := ⟨[⟨Text.of "a", .print true ⟨Text.of "x", 0⟩⟩, ⟨Text.of "b", .tail⟩]⟩
    let s : Template := ⟨[⟨Text.of "c", .opening false ⟨Text.of "y", 0⟩ 2⟩,
      ⟨Text.of "<", .print true ⟨FieldName.dot, 0⟩⟩, ⟨Text.of ">", .closing⟩]⟩
    let x : Value := .mapping [(.name (Text.of "x"), .text (Text.of "1")),
      (.name (Text.of "y"), .sequence [.text (Text.of "2"), .text (Text.of "3")])]
    SelfContained (.constant 0) u t ∧ compileWith (.constant 0) v = .ok s ∧
      (∃ r, compileWith (.constant 0) (u ++ v) = .ok r ∧ r.literalSize = 5 ∧
        r.renderText .ok x = .ok (Text.of "a1bc<2><3>")) ∧
      compileWith (.constant 0) (u ++ Text.of "-\x7b\x7b/y\x7d\x7d") =
        .error (.malformed ⟨.strayClosing (Text.of "y"), 8⟩) := by
  intro u v t s x
  have hscan : Token.scan u = [.char 'a', .tag ⟨.print true, Text.of "x"⟩ 1, .char 'b'] := by
    decide
  have hu : SelfContained (.constant 0) u t := by
    refine ⟨by decide, by decide, fun name offset htoken => ?_⟩
    rw [hscan] at htoken
    simp only [List.mem_cons, reduceCtorEq, Token.tag.injEq, Tag.mk.injEq, true_and,
      List.not_mem_nil, or_false, false_or] at htoken
    obtain ⟨rfl, -⟩ := htoken
    decide
  have hv : compileWith (.constant 0) v = .ok s := by decide
  obtain ⟨hiff, -, hmeans⟩ := compileWith_append hu v
  obtain ⟨r, hr⟩ := hiff.2 ⟨s, hv⟩
  obtain ⟨hsize, hrender⟩ := hmeans r s hr hv
  refine ⟨hu, hv, ⟨r, hr, hsize, ?_⟩, ?_⟩
  · rw [hrender]
    decide
  · exact (compileWith_append hu (Text.of "-\x7b\x7b/y\x7d\x7d")).2.1
      (.malformed ⟨.strayClosing (Text.of "y"), 1⟩) (by decide)

end Template

end Stencil
