import Stencil.Markdown.Block
import Stencil.Markdown.Reference
import Stencil.Text.Charset
import Stencil.Render.Show

namespace Stencil

namespace Markdown

/-- Tabs become spaces up to the next column divisible by four. -/
def expandTabs : (column : Nat) → Text → Text
  | _, [] => []
  | column, c :: r =>
    if c = '\t' then Text.replicate (4 - column % 4) ' ' ++ expandTabs 0 r
    else c :: expandTabs (if c = '\n' then 0 else column + 1) r

/-- Lines of spaces are emptied, except for the first line. -/
def emptyBlankLines : List Text → List Text
  | [] => []
  | l :: ls => l :: ls.map fun m => if m.all fun c => c.is ' ' then [] else m

/-- The lines of a text in which the characters for the start and the end of a text are left out. -/
def linesOf (t : Text) : List Text :=
  let kept := t.filter fun c => c.val ≠ 2 ∧ c.val ≠ 3
  let lines := emptyBlankLines (Text.splitOn '\n' (expandTabs 0 (Text.unifyLines false kept)))
  Text.splitOn '\n' (completeReferences (Text.joinWith [CodePoint.ofChar '\n'] lines))

/-- The HTML of a text. -/
def toHtmlWith (tables : Bool) (t : Text) : Text :=
  if t.isBlank then []
  else
    let blocks := (blocksOf [] (linesOf t)).flatMap (blockHtml tables [])
    Text.joinWith [CodePoint.ofChar '\n'] blocks

/-- The extensions that exist. -/
def extensionNames : List String :=
  ["abbr", "admonition", "attr_list", "codehilite", "def_list", "extra", "fenced_code", "footnotes",
    "legacy_attrs", "legacy_em", "md_in_html", "meta", "nl2br", "sane_lists", "smarty", "tables",
    "toc", "wikilinks"]

def isExtension (name : Text) : Bool := extensionNames.any fun s => Text.of s == name

/-- The extensions that read tables. -/
def readsTables (extensions : List Text) : Bool :=
  extensions.any fun e => e == Text.of "tables" || e == Text.of "extra"

/-- The conversion with some extensions. An unknown extension is a fault, even for a blank text. -/
def convert (extensions : List Text) : Conversion := fun t =>
  match extensions.find? fun e => !isExtension e with
  | some e => .error (.unknownExtension e)
  | none => .ok (toHtmlWith (readsTables extensions) t)

end Markdown

end Stencil
