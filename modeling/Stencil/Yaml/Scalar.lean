import Stencil.Data.Basic

namespace Stencil

namespace Yaml

def nullWords : List String := ["", "~", "null", "Null", "NULL"]

def trueWords : List String :=
  ["true", "True", "TRUE", "yes", "Yes", "YES", "on", "On", "ON"]

def falseWords : List String :=
  ["false", "False", "FALSE", "no", "No", "NO", "off", "Off", "OFF"]

def isWord (words : List String) (t : Text) : Bool := words.any fun w => Text.of w == t

/-- Splits off a sign. -/
def readSign : Text → Int × Text
  | [] => (1, [])
  | c :: r => if c = '-' then (-1, r) else if c = '+' then (1, r) else (1, c :: r)

/-- The digits of a numeral, without the underscores between them. -/
def withoutUnderscores (t : Text) : Text := t.filter fun c => !c.is '_'

/-- Digits in a base, of which underscores may group all but the first. -/
def digitsIn? (base : Nat) (t : Text) : Option Nat := Text.toNatIn? base (withoutUnderscores t)

/-- A natural number, in decimal unless a prefix names another base. -/
def nat? (t : Text) : Option Nat :=
  match t with
  | [] => none
  | c :: r =>
    if c = '0' then
      match r with
      | [] => some 0
      | d :: ds =>
        if d = 'b' then digitsIn? 2 ds
        else if d = 'x' then digitsIn? 16 ds
        else digitsIn? 8 (d :: ds)
    else if c.isDigit then digitsIn? 10 (c :: r)
    else none

/-- One or two digits below sixty. -/
def sixtieth? (t : Text) : Option Nat :=
  if 0 < t.length ∧ t.length ≤ 2 then (Text.toNatIn? 10 t).filter fun n => n < 60 else none

/-- A natural number in base sixty, with a colon before each further digit. -/
def sexagesimal? (t : Text) : Option Nat :=
  match Text.splitOn ':' t with
  | lead :: d :: ds =>
    if lead.head? = some (CodePoint.ofChar '0') ∨ !lead.head?.any CodePoint.isDigit then none
    else do
      let n ← digitsIn? 10 lead
      let places ← (d :: ds).mapM sixtieth?
      return places.foldl (fun m k => m * 60 + k) n
  | _ => none

def int? (t : Text) : Option Int :=
  let s := readSign t
  (nat? s.2 <|> sexagesimal? s.2).map fun n => s.1 * (n : Int)

/-- Whether a text is `e` or `E`, a sign and digits. -/
def isExponent : Text → Bool
  | c :: s :: ds =>
    (c.is 'e' || c.is 'E') && (s.is '-' || s.is '+') && ds ≠ [] && ds.all CodePoint.isDigit
  | _ => false

/-- Whether a text without its sign is written like a float: digits, a point, digits, and perhaps an
exponent. Only where there is no sign may the digits before the point be missing. -/
def isFloat (signed : Bool) (t : Text) : Bool :=
  let isPart (c : CodePoint) : Bool := c.isDigit || c.is '_'
  let whole := t.takeWhile isPart
  match t.drop whole.length with
  | [] => false
  | c :: r =>
    let places := r.takeWhile isPart
    let exponent := r.drop places.length
    let leads (u : Text) : Bool := u.head?.any CodePoint.isDigit
    c.is '.' && (exponent = [] || isExponent exponent) &&
      (leads whole || (!signed && whole = [] && leads places))

def float? (t : Text) : Option Binary64 :=
  let s := (readSign t).2
  if isWord [".inf", ".Inf", ".INF"] s then
    Binary64.read? (if t.head? = some (CodePoint.ofChar '-') then Text.of "-inf" else Text.of "inf")
  else if isWord [".nan", ".NaN", ".NAN"] t then Binary64.read? (Text.of "nan")
  else if isFloat (s.length < t.length) s then Binary64.read? (withoutUnderscores t)
  else none

/-- What a plain scalar stands for. An equals sign alone stands for nothing that can be read. It is
null, a boolean or a number if it is written like one, else a text. -/
def plain? (t : Text) : Option Scalar :=
  if isWord nullWords t then some .null
  else if isWord trueWords t then some (.bool true)
  else if isWord falseWords t then some (.bool false)
  else if isWord ["="] t then none
  else match int? t with
    | some n => some (.int n)
    | none =>
      match float? t with
      | some x => some (.float x)
      | none => some (.text t)

/-- The count of the decimal digits of a whole number that has too many of them. -/
def longCount? (t : Text) : Option Nat :=
  let s := (readSign t).2
  let lead := withoutUnderscores (s.takeWhile fun c => !c.is ':')
  if (int? t).isSome && s.head? ≠ some (CodePoint.ofChar '0') && Number.digitLimit < lead.length then
    some lead.length
  else none

end Yaml

end Stencil
