import Stencil.Render.Show
import Stencil.Value.Hint
import Stencil.Template.Basic

namespace Stencil

namespace Block

/-- Asks for literal text, unless it is empty. -/
def writeHtml (t : Text) : Script := if t = [] then .done else .ask (.asIs t)

/-- Walks `count` blocks with a value, of which the next `skip` belong to a section that has run.
Running out of blocks before the count is a fault, unless all that is left would be skipped. A
section runs the blocks after its tag once for each of its items, and the walk goes on behind
them. -/
def walk (convert : Conversion) : List Block → (skip count : Nat) → Value → Script
  | [], skip, count, _ => if count ≤ skip then .done else .fail .pastEnd
  | _ :: _, _, 0, _ => .done
  | _ :: rest, skip + 1, count + 1, v => walk convert rest skip count v
  | b :: rest, 0, count + 1, v =>
    let shown : Script := match b.tag with
      | .print escaped name => v.scriptTag convert escaped name
      | .opening inverted name children =>
        (v.tagPlan convert inverted name).script (walk convert rest 0 children)
      | .closing => .done
      | .tail => .done
    ((writeHtml b.html).andThen shown).andThen (walk convert rest b.tag.children count v)

end Block

namespace Template

/-- The blocks from an index on. A negative index counts from the end, and the first block comes
again after the last one; there is nothing so far before the first one. -/
def blocksFrom (t : Template) (start : Int) : List Block :=
  if 0 ≤ start then t.blocks.drop start.toNat
  else if 0 ≤ start + t.size then t.blocks.drop (start + t.size).toNat ++ t.blocks
  else []

/-- What the blocks from one index up to another ask for with a value. -/
def scriptSlice (t : Template) (convert : Conversion) (start stop : Int) (v : Value) : Script :=
  Block.walk convert (t.blocksFrom start) 0 (stop - start).toNat v

/-- Renders the blocks from one index up to another with a value, where only texts can be
written. -/
def renderSlice (t : Template) (convert : Conversion) (start stop : Int) (v : Value) : Run :=
  (t.scriptSlice convert start stop v).run

/-- What the blocks of the whole template ask for with a value. -/
def script (t : Template) (convert : Conversion) (v : Value) : Script :=
  Block.walk convert t.blocks 0 t.size v

/-- Renders the blocks of the whole template with a value, where only texts can be written. -/
def render (t : Template) (convert : Conversion) (v : Value) : Run := (t.script convert v).run

/-- The capacity that is reserved before a value is rendered. An attribute that is not set may be
read for it already. -/
def capacity (t : Template) (v : Value) : Except Fault Int := v.hint t.literalSize

/-- What rendering a value asks for: what the blocks ask for, if the value has a capacity. -/
def scriptWith (t : Template) (convert : Conversion) (v : Value) : Script :=
  .answer (t.capacity v) fun _ => t.script convert v

/-- Renders a value, where only texts can be written. -/
def renderWith (t : Template) (convert : Conversion) (v : Value) : Run :=
  (t.scriptWith convert v).run

theorem scriptWith_of_capacity {t : Template} {v : Value} {n : Int} (hcapacity : t.capacity v = .ok n)
    (convert : Conversion) : t.scriptWith convert v = t.script convert v := by
  rw [scriptWith, hcapacity, Script.answer]

theorem renderWith_of_capacity {t : Template} {v : Value} {n : Int} (hcapacity : t.capacity v = .ok n)
    (convert : Conversion) : t.renderWith convert v = t.render convert v := by
  rw [renderWith, scriptWith_of_capacity hcapacity, render]

theorem scriptWith_of_fault {t : Template} {v : Value} {f : Fault} (hcapacity : t.capacity v = .error f)
    (convert : Conversion) : t.scriptWith convert v = .fail f := by
  rw [scriptWith, hcapacity, Script.answer]

end Template

end Stencil
