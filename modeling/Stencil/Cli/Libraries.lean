import Stencil.Cli.Command
import Stencil.FileSystem.TextFile
import Stencil.Value.Content

namespace Stencil

namespace Cli

/-- What the command line is built on. Nothing about it is taken for granted: a run is defined, and
what is said about runs holds, for whatever stands here. -/
structure Libraries where
  parser : Parser
  codecs : Codecs
  /-- The data of a document in a text. -/
  document : Text → Except ReadError Data
  /-- The data of a document in an open file, which is decoded as it is read. -/
  fileDocument : Codec → Bytes → Except ReadError Data
  /-- The conversion of Markdown with some extensions. -/
  markdown : (extensions : List Text) → Conversion

end Cli

end Stencil
