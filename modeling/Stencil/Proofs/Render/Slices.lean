import Mathlib.Logic.Function.Iterate
import Stencil.Proofs.Render.Faults
import Stencil.Proofs.Render.Walk
import Stencil.Proofs.Template.Spans
import Stencil.Render.Walker

namespace Stencil

/-- A run with a fault behind it ends with that fault, unless it has one of its own. -/
theorem Run.andThen_fail_cases (a : Run) (f : Fault) :
    (a.fault = none ∧ a.andThen (.fail f) = ⟨a.writes, some f⟩) ∨
      ∃ g, a.fault = some g ∧ a.andThen (.fail f) = a := by
  obtain ⟨writes, fault⟩ := a
  cases fault with
  | none => exact .inl ⟨rfl, by simp [Run.andThen, Run.fail]⟩
  | some g => exact .inr ⟨g, rfl, rfl⟩

namespace Block

/-- A block opens a section or is walked over alone. -/
theorem Tag.leaf_or_opening (tag : Block.Tag) :
    (∀ inverted name children, tag ≠ .opening inverted name children) ∨
      ∃ inverted name children, tag = .opening inverted name children := by
  cases tag with
  | opening inverted name children => exact .inr ⟨inverted, name, children, rfl⟩
  | print | closing | tail => exact .inl nofun

variable {convert : Conversion} {bs : List Block}

/-- A walk that has more to do than there is does what there is, and then comes to the end. -/
theorem walk_of_length_lt (hfits : Fits bs) {skip count : Nat} (hskip : skip ≤ bs.length)
    (hcount : bs.length < count) (v : Value) :
    walk convert bs skip count v =
      (walk convert bs skip bs.length v).andThen (.fail .pastEnd) := by
  induction bs generalizing skip count v with
  | nil =>
    rw [List.length_nil] at hskip hcount
    rw [walk, walk, if_neg (by omega), List.length_nil, if_pos (Nat.zero_le skip)]
    rfl
  | cons b bs ih =>
    obtain ⟨count, rfl⟩ : ∃ n, count = n + 1 := ⟨count - 1, by omega⟩
    rw [List.length_cons] at hskip hcount
    cases skip with
    | succ skip =>
      rw [List.length_cons, walk, walk]
      exact ih hfits.tail (by omega) (by omega) v
    | zero =>
      rw [List.length_cons, walk, walk, ih hfits.tail hfits.children_le (by omega) v,
        Script.andThen_assoc _ (walk convert bs _ _ v)]

/-- Blocks that are passed over might as well not be there. -/
theorem walk_eq_drop (convert : Conversion) (bs : List Block) (skip count : Nat) (v : Value) :
    walk convert bs skip count v = walk convert (bs.drop skip) 0 (count - skip) v := by
  induction bs generalizing skip count with
  | nil =>
    rw [List.drop_nil, walk, walk]
    simp only [Nat.le_zero, Nat.sub_eq_zero_iff_le]
  | cons b bs ih =>
    cases count with
    | zero => rw [walk, Nat.zero_sub, walk_zero]
    | succ count =>
      cases skip with
      | zero => rfl
      | succ skip =>
        rw [walk, ih, List.drop_succ_cons, Nat.add_sub_add_right]

end Block

namespace Slice

variable {t : Template} {convert : Conversion} {s : Slice}

/-- A slice is rendered by a walk over the blocks from its start on. -/
theorem script_eq_walk (t : Template) (convert : Conversion) (s : Slice) (v : Value) :
    s.script t convert v =
      Block.walk convert (t.blocks.drop s.start) 0 (s.stop - s.start) v := by
  have hcount : ((s.stop : Int) - (s.start : Int)).toNat = s.stop - s.start := by omega
  rw [script, Template.scriptSlice, Template.blocksFrom, if_pos (Int.natCast_nonneg _),
    Int.toNat_natCast, hcount]

/-- An empty slice writes nothing. -/
theorem script_of_stop_le (hempty : s.stop ≤ s.start) (v : Value) :
    s.script t convert v = .done := by
  rw [script_eq_walk, Nat.sub_eq_zero_of_le hempty, Block.walk_zero]

/-- What the tag of a block at an index asks for. -/
def scriptTag (t : Template) (convert : Conversion) (index : Nat) (v : Value) : Block.Tag → Script
  | .print escaped name => v.scriptTag convert escaped name
  | .opening inverted name children =>
    (v.tagPlan convert inverted name).script (script t convert ⟨index + 1, index + 1 + children⟩)
  | _ => .done

/-- A slice starts with its first block, and goes on behind the section that it opens, if any. -/
theorem script_block {b : Block} (hstart : s.start < s.stop) (hblock : t.blocks[s.start]? = some b)
    (v : Value) :
    s.script t convert v =
      ((Block.writeHtml b.html).andThen (scriptTag t convert s.start v b.tag)).andThen
        (script t convert ⟨s.start + 1 + b.tag.children, s.stop⟩ v) := by
  obtain ⟨hinside, rfl⟩ := List.getElem?_eq_some_iff.1 hblock
  have hcount : s.stop - s.start = s.stop - s.start - 1 + 1 := by omega
  have hbehind : ∀ children, Block.walk convert (t.blocks.drop (s.start + 1)) children
      (s.stop - s.start - 1) v = script t convert ⟨s.start + 1 + children, s.stop⟩ v := by
    intro children
    have hleft : s.stop - s.start - 1 - children = s.stop - (s.start + 1 + children) := by omega
    rw [Block.walk_eq_drop, List.drop_drop, hleft, script_eq_walk]
  have hnested : ∀ children, Block.walk convert (t.blocks.drop (s.start + 1)) 0 children =
      script t convert ⟨s.start + 1, s.start + 1 + children⟩ := by
    intro children
    funext w
    rw [script_eq_walk, Nat.add_sub_cancel_left]
  rw [script_eq_walk, List.drop_eq_getElem_cons hinside, hcount, Block.walk, hbehind]
  unfold scriptTag
  cases t.blocks[s.start].tag <;> simp only [hnested]

/-- A slice that starts behind the last block fails at once. -/
theorem script_of_missing (hstart : s.start < s.stop) (hnone : t.blocks[s.start]? = none)
    (v : Value) : s.script t convert v = .fail .pastEnd := by
  have houtside := List.getElem?_eq_none_iff.1 hnone
  rw [script_eq_walk, List.drop_eq_nil_of_le houtside, Block.walk, if_neg (by omega)]

end Slice

namespace Walker

variable {t : Template} {convert : Conversion} {w w' w'' : Walker} {a b : Script}

/-- One machine comes to be another after some steps. -/
def Reaches (t : Template) (convert : Conversion) (w w' : Walker) : Prop :=
  ∃ n, (step t convert)^[n] w = w'

theorem Reaches.trans (hfirst : Reaches t convert w w') (hthen : Reaches t convert w' w'') :
    Reaches t convert w w'' := by
  obtain ⟨m, rfl⟩ := hfirst
  obtain ⟨n, rfl⟩ := hthen
  exact ⟨n + m, Function.iterate_add_apply _ n m w⟩

theorem Reaches.of_step (hstep : w.step t convert = w') : Reaches t convert w w' := ⟨1, hstep⟩

/-- A task on top is done after some steps: what it comes to is asked for, and the tasks below are
left unless it was stopped. What it has handed on does not matter here. -/
def Does (t : Template) (convert : Conversion) (task : Task) (a : Script) : Prop :=
  ∀ rs hs rest, ∃ handed,
    Reaches t convert ⟨task :: rest, rs, none, hs⟩ ((Walker.mk [] rs none handed).proceed a rest)

/-- A task that is left after a script is done next. -/
theorem Does.behind {task : Task} (hdoes : Does t convert task b) {rest : List Task}
    (hfirst : Reaches t convert w (w'.proceed a (task :: rest))) :
    ∃ handed, Reaches t convert w
      ((Walker.mk [] w'.requests none handed).proceed (a.andThen b) rest) := by
  obtain ⟨requests, fault⟩ := a
  cases fault with
  | none =>
    obtain ⟨handed, hthen⟩ := hdoes (w'.requests ++ requests) w'.handed rest
    refine ⟨handed, hfirst.trans ?_⟩
    simp only [proceed, List.append_assoc] at hthen
    exact hthen
  | some f => exact ⟨w'.handed, hfirst⟩

/-- The steps of a plan are done one after another. -/
theorem does_nested {s : Slice} (hblocks : ∀ v, Does t convert (.blocks s v) (s.script t convert v))
    (steps : List (Step Value)) (fault : Option Fault) :
    Does t convert (.nested s ⟨steps, fault⟩)
      (Plan.script ⟨steps, fault⟩ (s.script t convert)) := by
  induction steps with
  | nil =>
    intro rs hs rest
    refine ⟨hs, 1, ?_⟩
    cases fault <;> simp [step, proceed, Plan.script, Script.each, Script.fail]
  | cons head steps ih =>
    intro rs hs rest
    rw [Plan.script, Script.each, Script.andThen_assoc]
    cases head with
    | ask r =>
      have hstep : Reaches t convert ⟨.nested s ⟨.ask r :: steps, fault⟩ :: rest, rs, none, hs⟩
          ((Walker.mk [] rs none hs).proceed (.ask r) (.nested s ⟨steps, fault⟩ :: rest)) :=
        .of_step rfl
      exact ih.behind hstep
    | body v =>
      have hstep : Reaches t convert ⟨.nested s ⟨.body v :: steps, fault⟩ :: rest, rs, none, hs⟩
          ⟨.blocks s v :: .nested s ⟨steps, fault⟩ :: rest, rs, none, hs⟩ := .of_step rfl
      obtain ⟨handed, hbody⟩ := hblocks v rs hs (.nested s ⟨steps, fault⟩ :: rest)
      exact ih.behind (hstep.trans hbody)

/-- What is left of a slice behind its first block. -/
def afterBlock (b : Block) (s : Slice) (v : Value) : Task :=
  .blocks ⟨s.start + 1 + b.tag.children, s.stop⟩ v

theorem stepBlock_leaf {b : Block} (s : Slice) (v : Value) (rest : List Task)
    (hleaf : ∀ inverted name children, b.tag ≠ .opening inverted name children) :
    w.stepBlock convert b s v rest =
      w.proceed ((Block.writeHtml b.html).andThen (Slice.scriptTag t convert s.start v b.tag))
        (afterBlock b s v :: rest) := by
  unfold stepBlock Slice.scriptTag afterBlock
  cases htag : b.tag with
  | opening inverted name children => exact absurd htag (hleaf inverted name children)
  | print => rfl
  | closing => simp only [Script.andThen_done]
  | tail => simp only [Script.andThen_done]

/-- A section is handed on before it is known what it does. -/
theorem stepBlock_section {b : Block} {inverted : Bool} {name : FieldName} {children : Nat}
    (htag : b.tag = .opening inverted name children) (s : Slice) (v : Value) (rest : List Task) :
    w.stepBlock convert b s v rest =
      (w.hand ⟨s.start + 1, s.start + 1 + children⟩).proceed (Block.writeHtml b.html)
        (.nested ⟨s.start + 1, s.start + 1 + children⟩ (v.tagPlan convert inverted name) ::
          afterBlock b s v :: rest) := by
  unfold stepBlock afterBlock
  simp only [htag]

/-- The machine takes the first block of a slice and goes on behind it, or behind its section. -/
theorem step_blocks (convert : Conversion) {b : Block} {s : Slice} (hstart : s.start < s.stop)
    (hblock : t.blocks[s.start]? = some b) (v : Value) (rs : List Request) (hs : List Slice)
    (rest : List Task) :
    step t convert ⟨.blocks s v :: rest, rs, none, hs⟩ =
      stepBlock convert ⟨.blocks s v :: rest, rs, none, hs⟩ b s v rest := by
  simp only [step, Nat.not_le_of_lt hstart, if_false, hblock]

/-- A slice is done: every section that is handed on begins behind the block that hands it on, and
so does what is left of the slice, so there is less and less to walk over. -/
theorem does_blocks (t : Template) (convert : Conversion) (s : Slice) (v : Value) :
    Does t convert (.blocks s v) (s.script t convert v) := by
  induction hleft : t.blocks.length - s.start using Nat.strongRecOn generalizing s v with
  | ind n ih =>
    subst hleft
    intro rs hs rest
    by_cases hempty : s.stop ≤ s.start
    · refine ⟨hs, 1, ?_⟩
      rw [Slice.script_of_stop_le hempty]
      simp [step, hempty, proceed, Script.done]
    · have hstart : s.start < s.stop := Nat.lt_of_not_le hempty
      cases hblock : t.blocks[s.start]? with
      | none =>
        refine ⟨hs, 1, ?_⟩
        rw [Slice.script_of_missing hstart hblock]
        simp [step, hempty, hblock, proceed, Script.fail]
      | some b =>
        have hinside := (List.getElem?_eq_some_iff.1 hblock).1
        have hbehind : ∀ stop index w, s.start < index →
            Does t convert (.blocks ⟨index, stop⟩ w) (Slice.script t convert ⟨index, stop⟩ w) :=
          fun stop index w hindex => ih _ (by simp only; omega) ⟨index, stop⟩ w rfl
        have hafter : Does t convert (afterBlock b s v)
            (Slice.script t convert ⟨s.start + 1 + b.tag.children, s.stop⟩ v) :=
          hbehind _ _ v (by omega)
        have hstep := step_blocks convert hstart hblock v rs hs rest
        rw [Slice.script_block hstart hblock]
        rcases b.tag.leaf_or_opening with hleaf | ⟨inverted, name, children, htag⟩
        · rw [stepBlock_leaf (t := t) s v rest hleaf] at hstep
          exact hafter.behind (.of_step hstep)
        · have hbody : ∀ w, Does t convert (.blocks ⟨s.start + 1, s.start + 1 + children⟩ w)
              (Slice.script t convert ⟨s.start + 1, s.start + 1 + children⟩ w) :=
            fun w => hbehind _ _ w (by omega)
          rw [htag, Slice.scriptTag, ← htag]
          rw [stepBlock_section htag s] at hstep
          have hplan := does_nested hbody (v.tagPlan convert inverted name).steps
            (v.tagPlan convert inverted name).fault
          obtain ⟨handed, hsection⟩ := hplan.behind (.of_step hstep)
          exact hafter.behind hsection

/-- The walk ends, and comes to what the slice asks for. -/
theorem iterate_ofSlice (t : Template) (convert : Conversion) (s : Slice) (v : Value) :
    ∃ n handed, (step t convert)^[n] (ofSlice s v) =
      ⟨[], (s.script t convert v).requests, (s.script t convert v).fault, handed⟩ := by
  obtain ⟨handed, n, hn⟩ := does_blocks t convert s v [] [] []
  refine ⟨n, handed, hn.trans ?_⟩
  unfold proceed
  cases (s.script t convert v).fault <;> rfl

/-- What a step hands on begins behind an opening block and counts what that counts. -/
theorem handed_step {s : Slice} (hs : s ∈ (w.step t convert).handed) :
    s ∈ w.handed ∨ ∃ i k, s = ⟨i + 1, k + 1⟩ ∧ Block.SpansFrom t.blocks i k := by
  obtain ⟨tasks, requests, fault, handed⟩ := w
  rcases tasks with _ | ⟨⟨u, v⟩ | ⟨u, _ | ⟨r | v, steps⟩, _ | f⟩, rest⟩
  case cons.blocks =>
    by_cases hempty : u.stop ≤ u.start
    · simp only [step, hempty, if_true] at hs
      exact .inl hs
    · cases hblock : t.blocks[u.start]? with
      | none =>
        simp only [step, hempty, if_false, hblock] at hs
        exact .inl hs
      | some b =>
        simp only [step, hempty, if_false, hblock] at hs
        rcases b.tag.leaf_or_opening with hleaf | ⟨inverted, name, children, htag⟩
        · rw [stepBlock_leaf (t := t) u v rest hleaf] at hs
          exact .inl hs
        · rw [stepBlock_section htag u] at hs
          rcases List.mem_append.1 hs with hs | hs
          · exact .inl hs
          · refine .inr ⟨u.start, u.start + children, ?_, b.html, inverted, name, children, ?_, rfl⟩
            · rw [List.mem_singleton.1 hs, Nat.add_right_comm]
            · rw [hblock, ← htag]
  all_goals exact .inl hs

/-- Every slice that is handed on, after any number of steps, is a section of the blocks. -/
theorem handed_iterate {s : Slice} (hw : w.handed = []) (n : Nat)
    (hs : s ∈ ((step t convert)^[n] w).handed) :
    ∃ i k, s = ⟨i + 1, k + 1⟩ ∧ Block.SpansFrom t.blocks i k := by
  induction n with
  | zero =>
    rw [Function.iterate_zero_apply, hw] at hs
    cases hs
  | succ n ih =>
    rw [Function.iterate_succ_apply'] at hs
    rcases handed_step hs with hs | hspan
    · exact ih hs
    · exact hspan

end Walker

namespace Template

/-- A section of the template, from its opening block to its own closing one. -/
structure HasSection (hasher : Hasher) (t : Template) (i k : Nat) : Prop where
  spans : Block.SpansFrom t.blocks i k
  closing : ∃ last, t.blocks[k]? = some ⟨last, .closing⟩
  body : Block.Balanced hasher ((t.blocks.take k).drop (i + 1))
  own : ∀ j, Block.SpansFrom t.blocks j k → j = i

variable {hasher : Hasher} {source : Text} {t : Template} {convert : Conversion}

/-- The blocks that a section spans are its body and its closing block. -/
theorem hasSection_of_spansFrom (hshape : Block.WellFormed hasher t.blocks) {i k : Nat}
    (hspan : Block.SpansFrom t.blocks i k) : t.HasSection hasher i k := by
  have hclosing : ∃ last, t.blocks[k]? = some ⟨last, .closing⟩ := by
    obtain ⟨html, inverted, name, count, hblock, rfl⟩ := hspan
    exact (hshape.closed i html inverted name count hblock).2.2
  obtain ⟨last, hlast⟩ := hclosing
  obtain ⟨j, -, honly⟩ := hshape.closes_one k last hlast
  refine ⟨hspan, ⟨last, hlast⟩, hshape.enclosed i k hspan, fun l hl => ?_⟩
  rw [honly l hl, honly i hspan]

/-- A slice that ends behind the last block does what there is, and then comes to the end. -/
theorem script_of_size_lt (hfits : Block.Fits t.blocks) {start stop : Nat} (hstart : start < stop)
    (hstop : t.size < stop) (v : Value) :
    Slice.script t convert ⟨start, stop⟩ v =
      (Slice.script t convert ⟨start, t.size⟩ v).andThen (.fail .pastEnd) := by
  have hlength : (t.blocks.drop start).length = t.size - start := List.length_drop
  rw [Slice.script_eq_walk, Slice.script_eq_walk, ← hlength]
  refine Block.walk_of_length_lt (hfits.drop start) (Nat.zero_le _) ?_ v
  rw [hlength]
  simp only
  omega

/-- A slice inside the blocks never fails for want of a block. -/
theorem fault_ne_pastEnd (hconvert : ∀ text, convert text ≠ .error .pastEnd)
    (hfits : Block.Fits t.blocks) (start : Nat) {stop : Nat} (hstop : stop ≤ t.size) {v : Value}
    (hspared : v.Everywhere fun w => ¬ w.Stops convert .pastEnd) :
    (t.scriptSlice convert start stop v).fault ≠ some .pastEnd := by
  have hall : v.Everywhere (Value.Within convert (fun _ => True) (· ≠ .pastEnd)) :=
    hspared.imp fun w hw => ⟨fun _ _ => trivial, fun f hf heq => hw (heq ▸ hf)⟩
  have hcount : stop - start ≤ (t.blocks.drop start).length := by
    rw [List.length_drop]
    exact Nat.sub_le_sub_right hstop start
  have hpages : ∀ text f, convert text = .error f → f ≠ .pastEnd := by
    rintro text f hf rfl
    exact hconvert text hf
  have hwithin : (Block.walk convert (t.blocks.drop start) 0 (stop - start) v).Within _ _ :=
    Block.walk_within hpages (hfits.drop start) hcount hall
  rw [← Slice.script_eq_walk t convert ⟨start, stop⟩] at hwithin
  exact fun hfault => hwithin.fault _ hfault rfl

/-- And its run, where only texts can be written, is stopped there. -/
theorem renderSlice_of_size_lt (hfits : Block.Fits t.blocks) {start stop : Nat}
    (hstart : start < stop) (hstop : t.size < stop) (v : Value) :
    t.renderSlice convert start stop v =
      (t.renderSlice convert start t.size v).andThen (.fail .pastEnd) := by
  have hscript : t.scriptSlice convert start stop v =
      (t.scriptSlice convert start t.size v).andThen (.fail .pastEnd) :=
    script_of_size_lt hfits hstart hstop v
  rw [renderSlice, renderSlice, hscript, Script.run_andThen, Script.run_fail]

/-- Only a slice that goes on behind the blocks is stopped at their end. -/
theorem size_lt_of_pastEnd (hconvert : ∀ text, convert text ≠ .error .pastEnd)
    (hfits : Block.Fits t.blocks) {start stop : Nat} {v : Value}
    (hspared : v.Everywhere fun w => ¬ w.Stops convert .pastEnd)
    (hfault : (t.renderSlice convert start stop v).fault = some .pastEnd) :
    start < stop ∧ t.size < stop := by
  by_contra hnot
  by_cases hstart : start < stop
  · have hinside : (t.scriptSlice convert start stop v).fault ≠ some .pastEnd :=
      fault_ne_pastEnd hconvert hfits start (by omega) hspared
    exact Script.fault_run_ne (f := .pastEnd) nofun hinside hfault
  · have hdone : t.scriptSlice convert start stop v = .done :=
      Slice.script_of_stop_le (s := ⟨start, stop⟩) (Nat.le_of_not_lt hstart) v
    rw [renderSlice, hdone] at hfault
    cases hfault

/-- Wherever a slice begins and ends, its walk ends, and every section that is handed on while it
goes on is one of the template. If no custom value says so itself, it is stopped at the end of the
blocks exactly if it goes on behind them, unless anything else stops it before, and then it has
asked for what there is up to there, and written it. -/
theorem renderSlice_pastEnd_iff (hcompile : compileWith hasher source = .ok t)
    (hconvert : ∀ text, convert text ≠ .error .pastEnd) (start stop : Nat) (v : Value) :
    let a := t.scriptSlice convert start stop v
    let r := t.renderSlice convert start stop v
    (∃ n handed, (Walker.step t convert)^[n] (.ofSlice ⟨start, stop⟩ v) =
      ⟨[], a.requests, a.fault, handed⟩) ∧
    (∀ n, ∀ s ∈ ((Walker.step t convert)^[n] (.ofSlice ⟨start, stop⟩ v)).handed,
      ∃ i k, s = ⟨i + 1, k + 1⟩ ∧ t.HasSection hasher i k) ∧
    (start < stop → t.size < stop →
      a = (t.scriptSlice convert start t.size v).andThen (.fail .pastEnd)) ∧
    ((v.Everywhere fun w => ¬ w.Stops convert .pastEnd) →
      (stop ≤ t.size → a.fault ≠ some .pastEnd ∧ r.fault ≠ some .pastEnd) ∧
      ((∀ f, r.fault = some f → f = .pastEnd) →
        (r.fault = some .pastEnd ↔ start < stop ∧ t.size < stop)) ∧
      (r.fault = some .pastEnd → (t.renderSlice convert start t.size v).fault = none ∧
        (t.renderSlice convert start t.size v).writes = r.writes)) := by
  have hfits := fits_of_compile hcompile
  obtain ⟨b, hreads, hopened, rfl⟩ := compileWith_eq_ok_iff.1 hcompile
  generalize ht : (⟨b.finished.toList⟩ : Template) = t at hfits
  have hshape : Block.WellFormed hasher t.blocks := ht ▸ hreads.wellFormed hopened
  intro a r
  have hscript : start < stop → t.size < stop →
      a = (t.scriptSlice convert start t.size v).andThen (.fail .pastEnd) :=
    fun hstart hstop => script_of_size_lt hfits hstart hstop v
  refine ⟨Walker.iterate_ofSlice t convert ⟨start, stop⟩ v, fun n s hs => ?_, hscript,
    fun hspared => ?_⟩
  · obtain ⟨i, k, rfl, hspan⟩ := Walker.handed_iterate rfl n hs
    exact ⟨i, k, rfl, hasSection_of_spansFrom hshape hspan⟩
  have hbeyond : r.fault = some .pastEnd → start < stop ∧ t.size < stop :=
    size_lt_of_pastEnd hconvert hfits hspared
  have hsplit : start < stop → t.size < stop →
      r = (t.renderSlice convert start t.size v).andThen (.fail .pastEnd) :=
    fun hstart hstop => renderSlice_of_size_lt hfits hstart hstop v
  have hupTo : (t.renderSlice convert start t.size v).fault ≠ some .pastEnd :=
    Script.fault_run_ne nofun (fault_ne_pastEnd hconvert hfits start (Nat.le_refl _) hspared)
  refine ⟨fun hstop => ?_, fun honly => ⟨hbeyond, ?_⟩, ?_⟩
  · have hinside : a.fault ≠ some .pastEnd := fault_ne_pastEnd hconvert hfits start hstop hspared
    exact ⟨hinside, Script.fault_run_ne nofun hinside⟩
  · rintro ⟨hstart, hstop⟩
    rw [hsplit hstart hstop] at honly ⊢
    rcases Run.andThen_fail_cases (t.renderSlice convert start t.size v) .pastEnd with
      ⟨-, hr⟩ | ⟨g, hg, hr⟩
    · rw [hr]
    · rw [hr] at honly
      exact absurd (honly g hg ▸ hg) hupTo
  · intro hfault
    obtain ⟨hstart, hstop⟩ := hbeyond hfault
    rw [hsplit hstart hstop] at hfault ⊢
    rcases Run.andThen_fail_cases (t.renderSlice convert start t.size v) .pastEnd with
      ⟨hnone, hr⟩ | ⟨g, hg, hr⟩
    · rw [hr]
      exact ⟨hnone, rfl⟩
    · rw [hr] at hfault
      exact absurd hfault hupTo

/-- Slices that begin inside a section, end before it is closed, or end behind the last block. -/
theorem renderSlice_pastEnd_iff_inside :
    let t : Template := ⟨[⟨Text.of "a", .opening false ⟨Text.of "x", 0⟩ 2⟩,
      ⟨Text.of "b", .print true ⟨FieldName.dot, 0⟩⟩, ⟨Text.of "c", .closing⟩, ⟨Text.of "d", .tail⟩]⟩
    let v : Value := .mapping [(.name (Text.of "x"), .sequence [.bool true, .bool false])]
    compileWith (.constant 0)
        (Text.of "a\x7b\x7b#x\x7d\x7db\x7b\x7b.\x7d\x7dc\x7b\x7b/x\x7d\x7dd") = .ok t ∧
      (∀ text, (Except.ok text : Except Fault Text) ≠ .error .pastEnd) ∧
      v.Everywhere (fun w => ¬ w.Stops .ok .pastEnd) ∧
      (t.renderSlice .ok 0 1 v).writes =
        [Text.of "a", Text.of "b", Text.of "true", Text.of "c", Text.of "b", Text.of "false",
          Text.of "c"] ∧
      (t.renderSlice .ok 0 1 v).fault ≠ some .pastEnd ∧
      (t.renderSlice .ok 2 5 v).fault = some .pastEnd ∧
      (t.renderSlice .ok 2 t.size v).writes = (t.renderSlice .ok 2 5 v).writes ∧
      ∀ n, ∀ s ∈ ((Walker.step t .ok)^[n] (.ofSlice ⟨0, 1⟩ v)).handed,
        ∃ i k, s = ⟨i + 1, k + 1⟩ ∧ t.HasSection (.constant 0) i k := by
  intro t v
  have hcompile : compileWith (.constant 0)
      (Text.of "a\x7b\x7b#x\x7d\x7db\x7b\x7b.\x7d\x7dc\x7b\x7b/x\x7d\x7dd") = .ok t := by
    decide
  have hconvert : ∀ text, (Except.ok text : Except Fault Text) ≠ .error .pastEnd := nofun
  have hspared : v.Everywhere fun w => ¬ w.Stops .ok .pastEnd := by
    refine .mapping nofun fun key w hw => ?_
    cases List.mem_singleton.1 hw
    refine .sequence nofun fun u hu => ?_
    rcases List.mem_pair.1 hu with rfl | rfl <;> exact .of_parts nofun nofun
  have hcut := renderSlice_pastEnd_iff hcompile hconvert 0 1 v
  have hlong := (renderSlice_pastEnd_iff hcompile hconvert 2 5 v).2.2.2 hspared
  have honly : ∀ f, (t.renderSlice .ok 2 5 v).fault = some f → f = .pastEnd := by decide
  have hfault := (hlong.2.1 honly).2 (by decide)
  exact ⟨hcompile, hconvert, hspared, by decide, ((hcut.2.2.2 hspared).1 (by decide)).2, hfault,
    (hlong.2.2 hfault).2, hcut.2.1⟩

end Template

end Stencil
