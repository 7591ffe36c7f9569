import Stencil.Markdown.Inline

namespace Stencil

namespace Markdown

/-- What stands between the stars of a form. A form is tried before the ones of lower rank, and only
forms of lower rank are read inside it. -/
inductive Emphasis where
  | plain (tag : String) (content : List Piece)
  /-- One element inside the other, at its start. -/
  | leading (outer inner : String) (first second : List Piece)
  /-- One element inside the other, at its end. -/
  | trailing (outer inner : String) (first second : List Piece)

/-- Whether the pieces start with `n` stars. -/
def hasStars (n : Nat) (ps : List Piece) : Bool := n ≤ countChar '*' ps

/-- Every way to cut the pieces at a run of `n` stars, the shortest first part first. -/
def cuts (n : Nat) : List Piece → List (List Piece × List Piece)
  | [] => []
  | p :: r =>
    let later := (cuts n r).map fun q => (p :: q.1, q.2)
    if hasStars n (p :: r) then ([], (p :: r).drop n) :: later else later

/-- The cuts whose first part is not empty. -/
def properCuts (n : Nat) (ps : List Piece) : List (List Piece × List Piece) :=
  (cuts n ps).filter fun q => q.1 ≠ []

/-- The form of a rank that the pieces start with, and the pieces behind it. -/
def formAt? (rank : Nat) (ps : List Piece) : Option (Emphasis × List Piece) :=
  match rank with
  | 4 =>
    if hasStars 3 ps then
      (properCuts 1 (ps.drop 3)).findSome? fun a =>
        (cuts 2 a.2).head?.map fun b => (.leading "strong" "em" a.1 b.1, b.2)
    else none
  | 3 =>
    if hasStars 3 ps then
      (properCuts 2 (ps.drop 3)).findSome? fun a =>
        (cuts 1 a.2).head?.map fun b => (.leading "em" "strong" a.1 b.1, b.2)
    else none
  | 2 =>
    if countChar '*' ps == 2 then
      let first := (ps.drop 2).takeWhile fun p => !p.isChar '*'
      let rest := (ps.drop 2).drop first.length
      if first ≠ [] && countChar '*' rest == 1 then
        (properCuts 3 (rest.drop 1)).head?.map fun b => (.trailing "strong" "em" first b.1, b.2)
      else none
    else none
  | 1 =>
    if hasStars 2 ps then
      (properCuts 2 (ps.drop 2)).head?.map fun a => (.plain "strong" a.1, a.2)
    else none
  | 0 =>
    if hasStars 1 ps then
      let content := (ps.drop 1).takeWhile fun p => !p.isChar '*'
      let rest := (ps.drop 1).drop content.length
      if content ≠ [] && hasStars 1 rest then some (.plain "em" content, rest.drop 1) else none
    else none
  | _ => none

/-- An element around some HTML. -/
def element (tag : String) (content : Text) : Text :=
  Text.of "<" ++ Text.of tag ++ Text.of ">" ++ content ++ Text.of "</" ++ Text.of tag ++ Text.of ">"

def Emphasis.toHtml (inside : List Piece → Text) : Emphasis → Text
  | plain tag content => element tag (inside content)
  | leading outer inner first second =>
    element outer (element inner (inside first) ++ inside second)
  | trailing outer inner first second =>
    element outer (inside first ++ element inner (inside second))

/-- The HTML of the emphasis that the pieces start with, of a rank below a bound, as a rule. -/
def emphasisRule : (bound : Nat) → Rule
  | 0 => fun _ _ => none
  | rank + 1 => fun before ps =>
    match formAt? rank ps with
    | some (e, rest) =>
      let inside (qs : List Piece) : Text := toHtml (Rule.apply (emphasisRule rank) qs)
      some ([.html (e.toHtml inside)], ps.length - rest.length)
    | none => emphasisRule rank before ps

/-- The HTML of running text. Each emphasis that is read leaves fewer stars. -/
def inlineHtml (bars : Bool) (t : Text) : Text :=
  let ps := readMarks bars t
  toHtml (Rule.exhaust (emphasisRule 5) (ps.filter fun p => p.isChar '*').length ps)

end Markdown

end Stencil
