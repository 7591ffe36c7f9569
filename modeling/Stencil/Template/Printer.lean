import Stencil.Template.Basic

namespace Stencil

namespace Block

/-- A tag between double braces, with a sign or without. -/
def tagSource (sign : String) (name : Text) : Text :=
  Text.of "\x7b\x7b" ++ Text.of sign ++ Text.of " " ++ name ++ Text.of " \x7d\x7d"

/-- The source of some blocks inside the named open sections, the innermost one first. -/
def source : (names : List Text) → List Block → Text
  | _, [] => []
  | names, b :: bs =>
    b.html ++
      match b.tag with
      | .print true n => tagSource "" n.text ++ source names bs
      | .print false n =>
        Text.of "\x7b\x7b\x7b " ++ n.text ++ Text.of " \x7d\x7d\x7d" ++ source names bs
      | .opening inverted n _ =>
        tagSource (if inverted then "^" else "#") n.text ++ source (n.text :: names) bs
      | .closing => tagSource "/" (names.headD []) ++ source names.tail bs
      | .tail => source names bs

end Block

namespace Template

/-- A source of the template. -/
def source (t : Template) : Text := Block.source [] t.blocks

end Template

end Stencil
