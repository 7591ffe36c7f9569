import Stencil.Text.Utf8

namespace Stencil

/-- How a file holds text. -/
structure Codec where
  /-- The text of some bytes, or what is said about bytes that are none. -/
  decode : Bytes → Except Text Text
  /-- The bytes of a piece of text behind the pieces that were written before, latest first; `none`
  if one of its code points has no bytes. -/
  encode? : (earlier : List Text) → Text → Option Bytes

/-- The common character sets, each with some usual names. -/
inductive Charset where
  | utf8
  /-- UTF-8 with a byte order mark at the start of the file. -/
  | utf8Signed
  | latin1
  | ascii
deriving DecidableEq

namespace Charset

/-- Letters in lower case, and one underscore for each inner run of other signs. -/
def normalizeName : (pending : Bool) → (started : Bool) → Text → Text
  | _, _, [] => []
  | pending, started, c :: r =>
    if c.isLetter || c.isDigit || c == '.' then
      if pending && started then CodePoint.ofChar '_' :: c.toLower :: normalizeName false true r
      else c.toLower :: normalizeName false true r
    else normalizeName true started r

/-- The accepted names, in normal form. -/
def names : Charset → List String
  | utf8 => ["utf_8", "utf8", "utf", "u8", "cp65001", "utf8_ucs2", "utf8_ucs4"]
  | utf8Signed => ["utf_8_sig"]
  | latin1 =>
    ["latin_1", "latin1", "latin", "l1", "iso8859_1", "iso_8859_1", "iso8859", "8859", "cp819",
      "csisolatin1", "ibm819", "iso_8859_1_1987", "iso_ir_100"]
  | ascii =>
    ["ascii", "us_ascii", "us", "646", "ansi_x3.4_1968", "ansi_x3_4_1968", "ansi_x3.4_1986",
      "cp367", "csascii", "ibm367", "iso646_us", "iso_646.irv_1991", "iso_ir_6"]

def all : List Charset := [utf8, utf8Signed, latin1, ascii]

def named? (name : Text) : Option Charset :=
  let n := normalizeName false false name
  all.find? fun c => c.names.any fun s => Text.of s == n

/-- The byte order mark. -/
def mark : Bytes := [0xEF, 0xBB, 0xBF]

/-- One byte for each code point below a bound. -/
def encodeBelow? (bound : Nat) (t : Text) : Option Bytes :=
  if t.all fun c => c.val < bound then some (t.map fun c => UInt8.ofNat c.val) else none

/-- The bytes of a piece of text; `none` if the set lacks one of its code points. -/
def encode? : Charset → Text → Option Bytes
  | utf8, t => Utf8.encode? t
  | utf8Signed, t => Utf8.encode? t
  | latin1, t => encodeBelow? 256 t
  | ascii, t => encodeBelow? 128 t

/-- What a file starts with before its first piece of text. -/
def preamble : Charset → Bytes
  | utf8Signed => mark
  | _ => []

def decodeAscii (pos : Nat) : Bytes → Except DecodeError Text
  | [] => .ok []
  | b :: r =>
    if b < 0x80 then (decodeAscii (pos + 1) r).map (CodePoint.ofNat b.toNat :: ·)
    else .error ⟨.notAscii, pos, pos + 1, b⟩

/-- The text of a file. A part of the byte order mark that is all of the file holds no text. -/
def decode : Charset → Bytes → Except DecodeError Text
  | utf8, bs => Utf8.decode bs
  | utf8Signed, bs =>
    if bs.isPrefixOf mark then .ok []
    else Utf8.decode (if mark.isPrefixOf bs then bs.drop 3 else bs)
  | latin1, bs => .ok (bs.map fun b => CodePoint.ofNat b.toNat)
  | ascii, bs => decodeAscii 0 bs

/-- Every piece of text is encoded by itself, the first one behind the preamble. -/
def codec (c : Charset) : Codec where
  decode bs := (c.decode bs).mapError DecodeError.message
  encode? earlier t := (c.encode? t).map fun bs => (if earlier = [] then c.preamble else []) ++ bs

end Charset

/-- The codecs by their names. -/
abbrev Codecs := Text → Option Codec

/-- The codec of a name, or that of UTF-8 where none is given. -/
def Codecs.find? (codecs : Codecs) : Option Text → Option Codec
  | none => some Charset.utf8.codec
  | some name => codecs name

/-- The codecs of the common character sets. -/
def Charset.codecs : Codecs := fun name => (named? name).map codec

/-- A line ends with a line feed, whatever pair or single sign ended it before. -/
def Text.unifyLines : (afterReturn : Bool) → Text → Text
  | _, [] => []
  | afterReturn, c :: r =>
    if c = '\r' then CodePoint.ofChar '\n' :: unifyLines true r
    else if c = '\n' && afterReturn then unifyLines false r
    else c :: unifyLines false r

end Stencil
