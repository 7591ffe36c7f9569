import Stencil.Cli.Libraries
import Stencil.Cli.Parser
import Stencil.Markdown.Convert
import Stencil.Yaml.Document

namespace Stencil

namespace Cli

/-- The data of a document in a file, which is decoded before it is read. -/
def readDocument (codec : Codec) (bytes : Bytes) : Except ReadError Data :=
  match codec.decode bytes with
  | .error message => .error ⟨.undecodable, message⟩
  | .ok t => Yaml.read (Text.unifyLines false t)

/-- The readers, the character sets and the conversion of this library. -/
def Libraries.standard : Libraries where
  parser := .standard
  codecs := Charset.codecs
  document := Yaml.read
  fileDocument := readDocument
  markdown := Markdown.convert

end Cli

end Stencil
