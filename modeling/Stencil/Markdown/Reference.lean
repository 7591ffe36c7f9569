import Stencil.Text.Basic

namespace Stencil

namespace Markdown

def isHexDigit (c : CodePoint) : Bool := c.hexValue?.isSome

/-- The length of the numeric reference that a text starts with, up to its semicolon. -/
def referenceLength? : Text → Option Nat
  | a :: b :: r =>
    if a = '&' ∧ b = '#' then
      let decimal := (r.takeWhile CodePoint.isDigit).length
      let letter := r.head?.any fun c => c.toLower.is 'x'
      let hexadecimal := (r.tail.takeWhile isHexDigit).length
      if letter && 0 < hexadecimal then some (3 + hexadecimal)
      else if 0 < decimal && (r.drop decimal).head?.all fun c => !isHexDigit c then
        some (2 + decimal)
      else none
    else none
  | _ => none

/-- Whether a text starts like a numeric reference. -/
def startsReference (t : Text) : Bool := (Text.of "&#").isPrefixOf t

/-- A closing tag without a name. -/
def emptyTag : Text := Text.of "</>"

/-- Whether a text starts like a tag. -/
def startsTag : Text → Bool
  | a :: b :: _ => a.is '<' && (b.isLetter || b.is '/')
  | _ => false

/-- How many characters there are up to the first one of this kind and with it, if there is one. -/
def lengthThrough? (d : Char) (t : Text) : Option Nat :=
  let before := (t.takeWhile fun c => !c.is d).length
  if before < t.length then some (before + 1) else none

/-- Adds the missing semicolons and leaves out empty tags, after `skip` code points that are
settled. The search ends after as many vain tries as there are chances. What looks like a reference
and is none is passed over once, if there is a semicolon behind it, and ends the search the second
time. Tags are passed over; one that is never closed is passed over up to the next one, and stands
for one of the two vain tries. -/
def completeFrom : (chances skip : Nat) → Text → Text
  | _, _, [] => []
  | chances, skip + 1, _ :: r => completeFrom chances skip r
  | 0, 0, t => t
  | chances + 1, 0, c :: r =>
    let pass (chances n : Nat) : Text := (c :: r).take n ++ completeFrom chances (n - 1) r
    if startsTag (c :: r) then
      if emptyTag.isPrefixOf (c :: r) then completeFrom (chances + 1) 2 r
      else match lengthThrough? '>' r, lengthThrough? '<' r with
        | some n, _ => pass (chances + 1) (n + 1)
        | none, some n => pass 1 n
        | none, none => pass 1 1
    else match referenceLength? (c :: r) with
      | some n =>
        let mark := if ((c :: r).drop n).head?.any fun d => d.is ';' then [] else Text.of ";"
        (c :: r).take n ++ mark ++ completeFrom (chances + 1) (n - 1) r
      | none =>
        if !startsReference (c :: r) then c :: completeFrom (chances + 1) 0 r
        else if r.any fun d => d.is ';' then c :: completeFrom chances 0 r
        else c :: r

/-- A text with the missing semicolons of its numeric references. -/
def completeReferences (t : Text) : Text := completeFrom 2 0 t

end Markdown

end Stencil
