import Stencil.Config.Default
import Stencil.Config.Load
import Stencil.Data.Decidable
import Stencil.Proofs.Results
import Stencil.Yaml.Document

namespace Stencil

namespace Config

/-- The content of the default configuration file. -/
def defaultBytes : Bytes := (Utf8.encode? defaultText).getD []

end Config

end Stencil
