import Stencil.Config.Load

namespace Stencil

namespace Config

variable {document : Text → Except ReadError Data} {fs : FileSystem} {env : Environment}

end Config

end Stencil
