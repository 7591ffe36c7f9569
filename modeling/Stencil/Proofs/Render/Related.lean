import Mathlib.Data.List.Forall2
import Stencil.Render.Interpretation

namespace Stencil

/-- The same fault twice, or values that are related one by one. -/
inductive ItemsAlike (R : Value → Value → Prop) :
    Except Fault (List Value) → Except Fault (List Value) → Prop where
  | items {vs ws : List Value} (hitems : List.Forall₂ R vs ws) : ItemsAlike R (.ok vs) (.ok ws)
  | fault (f : Fault) : ItemsAlike R (.error f) (.error f)

theorem ItemsAlike.of_forall {R : Value → Value → Prop} {x : Except Fault (List Value)}
    (hself : ∀ vs, x = .ok vs → ∀ v ∈ vs, R v v) : ItemsAlike R x x := by
  cases x with
  | ok vs => exact .items (List.forall₂_same.2 (hself vs rfl))
  | error f => exact .fault f

theorem optionRel_refl {α : Type} {R : α → α → Prop} (hrefl : ∀ a, R a a) :
    ∀ x : Option α, Option.Rel R x x
  | none => .none
  | some a => .some (hrefl a)

theorem Value.onceIf_alike {R : Value → Value → Prop} {v w : Value} (hvw : R v w)
    (condition : Bool) : List.Forall₂ R (v.onceIf condition) (w.onceIf condition) := by
  unfold onceIf
  split
  · exact .cons hvw .nil
  · exact .nil

/-- Values that are true alike go on with themselves or not at all. -/
theorem ItemsAlike.ofTruthy {R : Value → Value → Prop} {v w : Value} (hvw : R v w)
    (htruthy : v.truthy = w.truthy) (f : Bool → Bool) :
    ItemsAlike R (v.truthy.map fun b => v.onceIf (f b)) (w.truthy.map fun b => w.onceIf (f b)) := by
  rw [← htruthy]
  cases v.truthy with
  | error e => exact .fault e
  | ok b => exact .items (Value.onceIf_alike hvw (f b))

/-- Values that are alike in their truth and in the items of a section are so in those of an inverse
one too. -/
theorem ItemsAlike.ofSection {R : Value → Value → Prop} {v w : Value} (hvw : R v w)
    (htruthy : v.truthy = w.truthy) (hsection : ItemsAlike R v.sectionItems w.sectionItems)
    (inverted : Bool) : ItemsAlike R (v.items inverted) (w.items inverted) := by
  cases inverted with
  | true => exact .ofTruthy hvw htruthy _
  | false => exact hsection

/-- Steps that run the body with related values, or ask for the same where that is allowed. -/
inductive StepAlike (Q : Request → Prop) (R : Value → Value → Prop) :
    Step Value → Step Value → Prop where
  | ask {r : Request} (hask : Q r) : StepAlike Q R (.ask r) (.ask r)
  | body {v w : Value} (hvw : R v w) : StepAlike Q R (.body v) (.body w)

/-- Plans with the same requests and the same fault, whose bodies run with related values. -/
structure PlanAlike (Q : Request → Prop) (R : Value → Value → Prop) (p q : Plan Value) : Prop where
  steps : List.Forall₂ (StepAlike Q R) p.steps q.steps
  fault : p.fault = q.fault

namespace PlanAlike

variable {Q : Request → Prop} {R : Value → Value → Prop}

theorem done : PlanAlike Q R .done .done := ⟨.nil, rfl⟩

theorem ofItems {x y : Except Fault (List Value)} (hitems : ItemsAlike R x y) :
    PlanAlike Q R (.ofItems x) (.ofItems y) := by
  cases hitems with
  | items hitems =>
    refine ⟨?_, rfl⟩
    rw [Plan.ofItems, Plan.ofItems, Plan.bodies, Plan.bodies, List.forall₂_map_left_iff,
      List.forall₂_map_right_iff]
    exact hitems.imp fun _ _ hvw => .body hvw
  | fault f => exact ⟨.nil, rfl⟩

/-- A plan is like itself if what it runs with is. -/
theorem of_forall {p : Plan Value} (hasks : ∀ r, .ask r ∈ p.steps → Q r)
    (hself : ∀ v ∈ p.values, R v v) : PlanAlike Q R p p := by
  refine ⟨List.forall₂_same.2 fun step hstep => ?_, rfl⟩
  cases step with
  | ask r => exact .ask (hasks r hstep)
  | body v => exact .body (hself v (List.mem_filterMap.2 ⟨.body v, hstep, rfl⟩))

theorem of_refl (hasks : ∀ r, Q r) (hrefl : ∀ v, R v v) (p : Plan Value) : PlanAlike Q R p p :=
  of_forall (fun r _ => hasks r) fun v _ => hrefl v

theorem imp {Q' : Request → Prop} (hQ : ∀ r, Q r → Q' r) {p q : Plan Value}
    (hpq : PlanAlike Q R p q) : PlanAlike Q' R p q := by
  refine ⟨hpq.steps.imp fun _ _ hstep => ?_, hpq.fault⟩
  cases hstep with
  | ask hask => exact .ask (hQ _ hask)
  | body hvw => exact .body hvw

/-- A plan with the value itself in it, and one with a value related to it. -/
theorem resolve {c d : Content Value} (hasks : ∀ r, Q r) (hrefl : ∀ v, R v v)
    (hself : R (.custom c) (.custom d)) (p : Plan (Option Value)) :
    PlanAlike Q R (Value.resolve c p) (Value.resolve d p) := by
  refine ⟨?_, rfl⟩
  rw [Value.resolve, Value.resolve, Plan.map, Plan.map, List.forall₂_map_left_iff,
    List.forall₂_map_right_iff]
  refine List.forall₂_same.2 fun step _ => ?_
  cases step with
  | ask r => exact .ask (hasks r)
  | body v =>
    cases v with
    | none => exact .body hself
    | some v => exact .body (hrefl v)

end PlanAlike

namespace Interpretation

variable {α β : Type}

/-- The steps over some blocks come to things related by `S`, if `R` relates the values that they
are taken with. -/
structure Related (i : Interpretation α) (j : Interpretation β) (S : α → β → Prop)
    (R : Value → Value → Prop) (blocks : List Block) : Prop where
  done : S i.done j.done
  literal : ∀ b ∈ blocks, b.html ≠ [] → S (i.literal b.html) (j.literal b.html)
  fail : ∀ f, S (i.fail f) (j.fail f)
  andThen : ∀ {a b a' b'}, S a a' → S b b' → S (i.andThen a b) (j.andThen a' b')
  shown : ∀ b ∈ blocks, ∀ {escaped name}, b.tag = .print escaped name →
    ∀ {v w}, R v w → S (i.shown escaped name v) (j.shown escaped name w)
  plan : ∀ b ∈ blocks, ∀ {inverted name children}, b.tag = .opening inverted name children →
    ∀ {v w}, R v w → PlanAlike (fun r => S (i.asked r) (j.asked r)) R (i.plan inverted name v)
      (j.plan inverted name w)

namespace Related

variable {i : Interpretation α} {j : Interpretation β} {S : α → β → Prop}
  {R : Value → Value → Prop} {blocks : List Block}

theorem html (hrelated : Related i j S R blocks) {b : Block} (hb : b ∈ blocks) :
    S (i.html b.html) (j.html b.html) := by
  unfold Interpretation.html
  split
  · exact hrelated.done
  · rename_i hne
    exact hrelated.literal b hb hne

/-- A section does alike in both interpretations if its plans do and its body does with related
values. -/
theorem nested (hrelated : Related i j S R blocks) {f : Value → α} {g : Value → β}
    (hbody : ∀ {v w}, R v w → S (f v) (g w)) {p q : Plan Value}
    (hplan : PlanAlike (fun r => S (i.asked r) (j.asked r)) R p q) :
    S (i.nested p f) (j.nested q g) := by
  obtain ⟨steps, e⟩ := p
  obtain ⟨steps', e'⟩ := q
  obtain ⟨hsteps, rfl⟩ : List.Forall₂ _ steps steps' ∧ e = e' := ⟨hplan.steps, hplan.fault⟩
  have heach : S (i.each f steps) (j.each g steps') := by
    clear hplan
    induction hsteps with
    | nil => exact hrelated.done
    | cons hstep _ ih =>
      cases hstep with
      | ask hask => exact hrelated.andThen hask ih
      | body hvw => exact hrelated.andThen (hbody hvw) ih
  unfold Interpretation.nested
  cases e with
  | none => exact hrelated.andThen heach hrelated.done
  | some e => exact hrelated.andThen heach (hrelated.fail e)

/-- And so does any tag. -/
theorem tag (hrelated : Related i j S R blocks) {b : Block} (hb : b ∈ blocks)
    {f : Nat → Value → α} {g : Nat → Value → β}
    (hbody : ∀ n {v w}, R v w → S (f n v) (g n w)) {v w : Value} (hvw : R v w) :
    S (i.tag f b.tag v) (j.tag g b.tag w) := by
  cases htag : b.tag with
  | print escaped name => exact hrelated.shown b hb htag hvw
  | opening inverted name children =>
    exact hrelated.nested (hbody children) (hrelated.plan b hb htag hvw)
  | closing => exact hrelated.done
  | tail => exact hrelated.done

/-- What holds of the steps holds of a walk over any of the blocks. -/
theorem walkOn (hrelated : Related i j S R blocks) {bs : List Block} (hbs : ∀ b ∈ bs, b ∈ blocks)
    (skip count : Nat) {v w : Value} (hvw : R v w) :
    S (Block.walkOn i bs skip count v) (Block.walkOn j bs skip count w) := by
  induction bs generalizing skip count v w with
  | nil =>
    simp only [Block.walkOn]
    split
    · exact hrelated.done
    · exact hrelated.fail _
  | cons b bs ih =>
    have hrest : ∀ c ∈ bs, c ∈ blocks := fun c hc => hbs c (List.mem_cons_of_mem b hc)
    have hb : b ∈ blocks := hbs b List.mem_cons_self
    cases count with
    | zero => simpa only [Block.walkOn] using hrelated.done
    | succ count =>
      cases skip with
      | succ skip => exact ih hrest skip count hvw
      | zero =>
        -- The body of a section is a shorter walk, and so is what follows the block.
        have htag := hrelated.tag hb (fun n _ _ hvw => ih hrest 0 n hvw) hvw
        have hhere := hrelated.andThen (hrelated.html hb) htag
        simpa only [Block.walkOn] using hrelated.andThen hhere (ih hrest b.tag.children count hvw)

end Related

end Interpretation

/-- What holds of the steps holds of rendering the template. -/
theorem Template.renderOn_related {α β : Type} {t : Template} {i : Interpretation α}
    {j : Interpretation β} {S : α → β → Prop} {R : Value → Value → Prop}
    (hrelated : Interpretation.Related i j S R t.blocks) {v w : Value} (hvw : R v w) :
    S (t.renderOn i v) (t.renderOn j w) :=
  hrelated.walkOn (fun _ hb => hb) 0 t.size hvw

namespace Value

/-- Fields that are shown in the same way, with related values. -/
structure Field.Alike (R : Value → Value → Prop) (f g : Field) : Prop where
  value : R f.value g.value
  markdown : f.markdown = g.markdown

/-- Contents that answer alike, apart from the values that their sections go on with, which are
related. -/
structure OwnAlike (convert : Conversion) (R : Value → Value → Prop) (c d : Content Value) :
    Prop where
  nested : ∀ inverted, PlanAlike (fun _ => True) R (resolve c (c.nested convert inverted))
    (resolve d (d.nested convert inverted))
  fieldShown : c.fieldShown convert = d.fieldShown convert
  fieldNested : ∀ inverted hash name, PlanAlike (fun _ => True) R
    (resolve c (c.fieldNested convert inverted hash name))
    (resolve d (d.fieldNested convert inverted hash name))

theorem OwnAlike.refl {convert : Conversion} {R : Value → Value → Prop} (hrefl : ∀ v, R v v)
    (c : Content Value) : OwnAlike convert R c c where
  nested _ := .of_refl (fun _ => trivial) hrefl _
  fieldShown := rfl
  fieldNested _ _ _ := .of_refl (fun _ => trivial) hrefl _

/-- Values that show the same, and whose fields and items are related. Only the names that are known
to occur have to be asked for. -/
structure AnswersAlike (convert : Conversion) (known : FieldName → Prop)
    (R : Value → Value → Prop) (v w : Value) : Prop where
  shows : ∀ mode, v.scriptAs convert mode = w.scriptAs convert mode
  own : Option.Rel (OwnAlike convert R) v.own? w.own?
  items : ∀ inverted, ItemsAlike R (v.items inverted) (w.items inverted)
  field : ∀ {name}, known name →
    Option.Rel (Field.Alike R) (v.field? name.hash name.text) (w.field? name.hash name.text)

/-- Related values answer alike, again and again. -/
def Bisimulation (convert : Conversion) (known : FieldName → Prop) (R : Value → Value → Prop) :
    Prop :=
  ∀ {v w}, R v w → AnswersAlike convert known R v w

namespace AnswersAlike

variable {convert : Conversion} {known : FieldName → Prop} {R : Value → Value → Prop} {v w : Value}

theorem refl (hrefl : ∀ u, R u u) (v : Value) : AnswersAlike convert known R v v where
  shows _ := rfl
  own := optionRel_refl (OwnAlike.refl hrefl) _
  items _ := .of_forall fun _ _ u _ => hrefl u
  field _ := optionRel_refl (fun f => ⟨hrefl f.value, rfl⟩) _

/-- Values with like answers have like sections. -/
theorem plan (halike : AnswersAlike convert known R v w) (inverted : Bool) :
    PlanAlike (fun _ => True) R (v.plan convert inverted) (w.plan convert inverted) := by
  have hown := halike.own
  unfold Value.plan
  generalize v.own? = c at hown
  generalize w.own? = d at hown
  cases hown with
  | some hcd => exact hcd.nested inverted
  | none => exact .ofItems (halike.items inverted)

end AnswersAlike

namespace Bisimulation

variable {convert : Conversion} {known : FieldName → Prop} {R : Value → Value → Prop}

/-- Related values show the same at a tag whose name is known. -/
theorem scriptTag (hbisim : Bisimulation convert known R) {name : FieldName} (hname : known name)
    {v w : Value} (hvw : R v w) (escaped : Bool) :
    v.scriptTag convert escaped name = w.scriptTag convert escaped name := by
  have hown := (hbisim hvw).own
  have hfield := (hbisim hvw).field hname
  unfold Value.scriptTag scriptField
  rw [(hbisim hvw).shows]
  generalize v.own? = c at hown
  generalize w.own? = d at hown
  cases hown with
  | some hcd => simp only [hcd.fieldShown]
  | none =>
    generalize v.field? name.hash name.text = x at hfield
    generalize w.field? name.hash name.text = y at hfield
    cases hfield with
    | none => rfl
    | some hfg => simp only [hfg.markdown, (hbisim hfg.value).shows]

/-- And have like sections there. -/
theorem tagPlan (hbisim : Bisimulation convert known R) {name : FieldName} (hname : known name)
    {v w : Value} (hvw : R v w) (inverted : Bool) :
    PlanAlike (fun _ => True) R (v.tagPlan convert inverted name)
      (w.tagPlan convert inverted name) := by
  have hown := (hbisim hvw).own
  have hfield := (hbisim hvw).field hname
  unfold Value.tagPlan fieldPlan
  split
  · exact (hbisim hvw).plan inverted
  · generalize v.own? = c at hown
    generalize w.own? = d at hown
    cases hown with
    | some hcd => exact hcd.fieldNested inverted name.hash name.text
    | none =>
      generalize v.field? name.hash name.text = x at hfield
      generalize w.field? name.hash name.text = y at hfield
      cases hfield with
      | none => exact .done
      | some hfg => exact (hbisim hfg.value).plan inverted

end Bisimulation

end Value

/-- Values that no tag of the template can tell apart ask for the same. -/
theorem Template.script_eq_of_bisimulation {t : Template} {convert : Conversion}
    {known : FieldName → Prop} {R : Value → Value → Prop}
    (hbisim : Value.Bisimulation convert known R)
    (hknown : ∀ b ∈ t.blocks, ∀ name, b.tag.name? = some name → known name)
    {v w : Value} (hvw : R v w) : t.script convert v = t.script convert w := by
  rw [← renderOn_scripts, ← renderOn_scripts]
  refine renderOn_related (S := Eq) ?_ hvw
  exact {
    done := rfl
    literal := fun b hb hne => rfl
    fail := fun f => rfl
    andThen := by
      rintro a b a' b' rfl rfl
      rfl
    shown := by
      intro b hb escaped name htag v w hvw
      exact hbisim.scriptTag (hknown b hb name (by simp [htag, Block.Tag.name?])) hvw escaped
    plan := by
      intro b hb inverted name children htag v w hvw
      have hname := hknown b hb name (by simp [htag, Block.Tag.name?])
      exact (hbisim.tagPlan hname hvw inverted).imp fun _ _ => rfl }

end Stencil
