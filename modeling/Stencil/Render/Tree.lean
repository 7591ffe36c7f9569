import Stencil.Render.Show
import Stencil.Template.Node

namespace Stencil

namespace Node

mutual

/-- What one node asks for with a value. A section renders its body once for each value of its
plan. -/
def script (convert : Conversion) : Node → Value → Script
  | .literal t, _ => .ask (.asIs t)
  | .print escaped name, v => v.scriptTag convert escaped name
  | .nested inverted name body, v =>
    (v.tagPlan convert inverted name).script (scriptAll convert body)

/-- What nodes ask for one after another with a value. -/
def scriptAll (convert : Conversion) : List Node → Value → Script
  | [], _ => .done
  | n :: ns, v => (n.script convert v).andThen (scriptAll convert ns v)

end

end Node

end Stencil
