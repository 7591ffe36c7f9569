import Stencil.Render.Walk

namespace Stencil

/-- What the steps of a walk come to, and what two of them come to one after the other. -/
structure Interpretation (α : Type) where
  done : α
  /-- Literal text that is not empty. -/
  literal (t : Text) : α
  /-- What a variable tag shows of a value. -/
  shown (escaped : Bool) (name : FieldName) (v : Value) : α
  /-- What the section of a custom value asks for itself. -/
  asked (r : Request) : α
  /-- What a section over a value does. -/
  plan (inverted : Bool) (name : FieldName) (v : Value) : Plan Value
  fail (f : Fault) : α
  andThen (a b : α) : α

namespace Interpretation

variable {α : Type}

/-- The literal text of a block, if there is any. -/
def html (i : Interpretation α) (t : Text) : α := if t = [] then i.done else i.literal t

/-- The steps of a section one after another. -/
def each (i : Interpretation α) (body : Value → α) : List (Step Value) → α
  | [] => i.done
  | .ask r :: steps => i.andThen (i.asked r) (i.each body steps)
  | .body v :: steps => i.andThen (body v) (i.each body steps)

/-- All that a section does, up to its fault. -/
def nested (i : Interpretation α) (p : Plan Value) (body : Value → α) : α :=
  i.andThen (i.each body p.steps)
    (match p.fault with
    | some f => i.fail f
    | none => i.done)

/-- The tag of a block with a value; `body` renders a number of blocks behind it. -/
def tag (i : Interpretation α) (body : Nat → Value → α) (t : Block.Tag) (v : Value) : α :=
  match t with
  | .print escaped name => i.shown escaped name v
  | .opening inverted name children => i.nested (i.plan inverted name v) (body children)
  | .closing => i.done
  | .tail => i.done

/-- The steps of a walk as scripts. -/
def scripts (convert : Conversion) : Interpretation Script where
  done := .done
  literal t := .ask (.asIs t)
  shown escaped name v := v.scriptTag convert escaped name
  asked := .ask
  plan inverted name v := v.tagPlan convert inverted name
  fail := .fail
  andThen := .andThen

theorem each_scripts (convert : Conversion) (body : Value → Script) (steps : List (Step Value)) :
    (scripts convert).each body steps = .each (Step.script body) steps := by
  induction steps with
  | nil => rfl
  | cons step steps ih => cases step <;> rw [each, Script.each, ih] <;> rfl

theorem nested_scripts (convert : Conversion) (p : Plan Value) (body : Value → Script) :
    (scripts convert).nested p body = p.script body := by
  obtain ⟨steps, _ | f⟩ := p <;> rw [nested, each_scripts, Plan.script] <;> rfl

end Interpretation

namespace Block

/-- Walks `count` blocks with a value, of which the next `skip` belong to a section that has run. -/
def walkOn {α : Type} (i : Interpretation α) : List Block → (skip count : Nat) → Value → α
  | [], skip, count, _ => if count ≤ skip then i.done else i.fail .pastEnd
  | _ :: _, _, 0, _ => i.done
  | _ :: rest, skip + 1, count + 1, v => walkOn i rest skip count v
  | b :: rest, 0, count + 1, v =>
    i.andThen (i.andThen (i.html b.html) (i.tag (walkOn i rest 0) b.tag v))
      (walkOn i rest b.tag.children count v)

/-- A walk whose steps are taken as scripts is the walk that comes to a script. -/
theorem walkOn_scripts (convert : Conversion) (bs : List Block) (skip count : Nat) (v : Value) :
    walkOn (.scripts convert) bs skip count v = walk convert bs skip count v := by
  induction bs generalizing skip count v with
  | nil => rfl
  | cons b bs ih =>
    cases count with
    | zero => rw [walkOn, walk]; rfl
    | succ count =>
      cases skip with
      | succ skip => exact ih skip count v
      | zero =>
        have hbody : walkOn (.scripts convert) bs 0 = walk convert bs 0 := by
          funext children w
          exact ih 0 children w
        rw [walkOn, walk, hbody, ih]
        cases b.tag with
        | opening inverted name children =>
          simp only [Interpretation.tag, Interpretation.nested_scripts]
          rfl
        | print | closing | tail => rfl

end Block

namespace Template

/-- Renders the whole template with a value. -/
def renderOn {α : Type} (t : Template) (i : Interpretation α) (v : Value) : α :=
  Block.walkOn i t.blocks 0 t.size v

/-- To render by scripts is to come to the script of the template. -/
theorem renderOn_scripts (t : Template) (convert : Conversion) (v : Value) :
    t.renderOn (.scripts convert) v = t.script convert v :=
  Block.walkOn_scripts convert t.blocks 0 t.size v

end Template

end Stencil
