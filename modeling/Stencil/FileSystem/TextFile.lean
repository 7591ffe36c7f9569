import Stencil.FileSystem.Basic
import Stencil.Text.Charset
import Stencil.Data.Basic

namespace Stencil

/-- Why a text file cannot be read or opened. -/
inductive TextFileError where
  | system (e : FileError)
  /-- The character set is not named by a text. -/
  | unnamedCharset
  | nullInCharset
  | surrogateInCharset
  | unknownCharset
  | undecodable (message : Text)
deriving DecidableEq

def TextFileError.message : TextFileError → Text
  | system e => e.message
  | unnamedCharset => Text.of "the encoding is not a name"
  | nullInCharset => Text.of "embedded null character"
  | surrogateInCharset => Text.of "surrogates not allowed"
  | unknownCharset => Text.of "unknown encoding"
  | undecodable message => message

/-- Whether the error is about a value, and neither about its type nor the system's. -/
def TextFileError.isValueError : TextFileError → Bool
  | system e => !e.isSystem
  | nullInCharset => true
  | surrogateInCharset => true
  | undecodable _ => true
  | _ => false

/-- The name under which data asks for a codec; nothing gives none. -/
def Charset.nameOf : Data → Except TextFileError (Option Text)
  | .scalar .null => .ok none
  | .scalar (.text t) =>
    if t.hasSurrogate then .error .surrogateInCharset
    else if t.any fun c => c.val == 0 then .error .nullInCharset
    else .ok (some t)
  | _ => .error .unnamedCharset

/-- The text of the bytes of a file, with its line ends unified. -/
def Codec.read (codec : Codec) (bytes : Bytes) : Except TextFileError Text :=
  match codec.decode bytes with
  | .error message => .error (.undecodable message)
  | .ok t => .ok (Text.unifyLines false t)

namespace FileSystem

variable (fs : FileSystem)

/-- The text of a file in a codec. -/
def readAs (codec : Codec) (p : Path) : Except TextFileError Text :=
  match fs.read p with
  | .error e => .error (.system e)
  | .ok bytes => codec.read bytes

section Named

variable (codecs : Codecs) (charset : Data) (p : Path)

/-- Opens a file for reading: its codec and what it holds. That the data is no name is found before
the file is opened, that the name is unknown after it. -/
def openFile : Except TextFileError (Codec × Bytes) :=
  match Charset.nameOf charset with
  | .error e => .error e
  | .ok name =>
    match fs.read p with
    | .error e => .error (.system e)
    | .ok bytes =>
      match codecs.find? name with
      | none => .error .unknownCharset
      | some codec => .ok (codec, bytes)

/-- The text of a file. -/
def readText : Except TextFileError Text :=
  match fs.openFile codecs charset p with
  | .error e => .error e
  | .ok (codec, bytes) => codec.read bytes

/-- Opens a file for a text, which empties it, and gives its codec and its place. -/
def openText : FileSystem × Except TextFileError (Codec × List Text) :=
  match Charset.nameOf charset with
  | .error e => (fs, .error e)
  | .ok name =>
    match fs.openEmpty p with
    | .error e => (fs, .error (.system e))
    | .ok (fs', place) =>
      match codecs.find? name with
      | none => (fs', .error .unknownCharset)
      | some codec => (fs', .ok (codec, place))

end Named

end FileSystem

end Stencil
