import Stencil.Markdown.Emphasis
import Stencil.Markdown.Row

namespace Stencil

namespace Markdown

/-- A text without its outer spaces. -/
def trimSpaces (t : Text) : Text :=
  let left (s : Text) : Text := s.dropWhile fun c => c.is ' '
  (left (left t).reverse).reverse

/-- How the cells of a column are aligned. -/
inductive Alignment where
  | none
  | left
  | right
  | center
deriving DecidableEq

namespace Alignment

/-- The alignment that a cell of the second line asks for. -/
def ofCell (cell : Text) : Alignment :=
  let c := trimSpaces cell
  match c.head? == some (CodePoint.ofChar ':'), c.getLast? == some (CodePoint.ofChar ':') with
  | true, true => .center
  | true, false => .left
  | false, true => .right
  | false, false => .none

def style : Alignment → Text
  | none => []
  | left => Text.of " style=\"text-align: left;\""
  | right => Text.of " style=\"text-align: right;\""
  | center => Text.of " style=\"text-align: center;\""

end Alignment

/-- A line of HTML. -/
def line (s : String) : Text := Text.of s ++ [CodePoint.ofChar '\n']

/-- A row with as many cells as there are columns. -/
def rowHtml (tag : String) (columns : List Alignment) (cells : List Text) : Text :=
  let cell (p : Alignment × Option Text) : Text :=
    Text.of "<" ++ Text.of tag ++ p.1.style ++ Text.of ">" ++
      inlineHtml true (trimSpaces (p.2.getD [])) ++ Text.of "</" ++ Text.of tag ++ line ">"
  let padded := cells.map some ++ List.replicate (columns.length - cells.length) none
  line "<tr>" ++ (columns.zip padded).flatMap cell ++ line "</tr>"

/-- The second line of a table says only how columns are aligned. It has as many cells as the first,
made of hyphens and colons. -/
def isSeparator (cells : List Text) : Bool :=
  cells.all fun c => c.all fun d => d.is '|' || d.is ':' || d.is '-' || d.is ' '

/-- The HTML of a table, if the lines are one. In a table of one column every line is bordered by a
bar. -/
def tableHtml? (lines : List Text) : Option Text :=
  match lines.map trimSpaces with
  | header :: second :: rows =>
    let bordered := isBordered header
    let heads := cellsOf bordered header
    let separator := cellsOf bordered second
    let regular := 1 < heads.length ||
      (heads.length == 1 && bordered && (second :: rows).all isBordered)
    if regular && separator.length == heads.length && isSeparator separator then
      let columns := separator.map Alignment.ofCell
      let body := match rows with
        | [] => rowHtml "td" columns []
        | _ => rows.flatMap fun r => rowHtml "td" columns (cellsOf bordered r)
      some (line "<table>" ++ line "<thead>" ++ rowHtml "th" columns heads ++ line "</thead>" ++
        line "<tbody>" ++ body ++ line "</tbody>" ++ Text.of "</table>")
    else none
  | _ => none

end Markdown

end Stencil
