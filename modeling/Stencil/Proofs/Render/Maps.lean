import Stencil.Proofs.Record.Table
import Stencil.Proofs.Render.Related
import Stencil.Proofs.Sink.Encoder
import Stencil.Proofs.Template.Spans
import Stencil.Proofs.Value.Hint

namespace Stencil

namespace Value

mutual

/-- The value with a map in the place of each record, at every depth: it leads from the name that a
visible field has in templates to the attribute that the field shows. -/
@[simp] def asMaps : Value → Value
  | sequence items => .sequence (itemsAsMaps items)
  | mapping entries => .mapping (entriesAsMaps entries)
  | optional inner present => .optional inner.asMaps present
  | success inner => .success inner.asMaps
  | record table attrs =>
    let attrs := attrsAsMaps attrs
    .mapping (table.specs.map fun s => (.name s.name, attr attrs s.attr))
  | adapted inner => .adapted inner.asMaps
  | v => v

def itemsAsMaps : List Value → List Value
  | [] => []
  | v :: vs => v.asMaps :: itemsAsMaps vs

def entriesAsMaps : List (Key × Value) → List (Key × Value)
  | [] => []
  | (key, v) :: rest => (key, v.asMaps) :: entriesAsMaps rest

def attrsAsMaps : List (Text × Value) → List (Text × Value)
  | [] => []
  | (name, v) :: rest => (name, v.asMaps) :: attrsAsMaps rest

end

end Value

namespace Template

end Template

end Stencil
