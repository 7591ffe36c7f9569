import Stencil.Sink.Stream
import Stencil.FileSystem.TextFile

namespace Stencil

/-- Why rendering to a file fails. -/
inductive ToFileError where
  | file (e : TextFileError)
  | render (e : Failure)
deriving DecidableEq

namespace Template

/-- Renders a value to a file that is opened for writing. -/
def renderAt (t : Template) (convert : Conversion) (v : Value) (codec : Codec)
    (place : List Text) (fs : FileSystem) : FileSystem × Option ToFileError :=
  let r := t.renderTo convert v ({ stream := { codec } } : Counted FileStream)
  (fs.putAt place (.file r.1.stream.bytes), r.2.map .render)

/-- Renders a value to the file of a path, in the named character set. -/
def renderToFile (t : Template) (convert : Conversion) (v : Value) (codecs : Codecs)
    (charset : Data) (p : Path) (fs : FileSystem) : FileSystem × Option ToFileError :=
  match fs.ensureDirectories p.parent with
  | (fs, some e) => (fs, some (.file (.system e)))
  | (fs, none) =>
    match fs.openText codecs charset p with
    | (fs, .error e) => (fs, some (.file e))
    | (fs, .ok (codec, place)) => t.renderAt convert v codec place fs

end Template

end Stencil
