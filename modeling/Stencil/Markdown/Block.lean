import Stencil.Markdown.Table

namespace Stencil

namespace Markdown

/-- The text of a heading after its number signs, without the number signs at its end. A backslash
needs a character behind it. -/
def headingText? : Text → Option Text
  | [] => some []
  | c :: r =>
    if (c :: r).all fun d => d.is '#' then some []
    else if c = Text.backslash then
      match r with
      | [] => none
      | d :: r => (headingText? r).map fun t => c :: d :: t
    else (headingText? r).map (c :: ·)

/-- The level and the text of a heading line. -/
def heading? (l : Text) : Option (Nat × Text) :=
  let level := min 6 (l.takeWhile fun c => c.is '#').length
  if level = 0 then none else (headingText? (l.drop level)).map fun t => (level, t.trim)

/-- Elements that start a block of HTML. -/
def blockElements : List String :=
  ["address", "article", "aside", "blockquote", "body", "canvas", "center", "details", "dd", "dir",
    "div", "dl", "dt", "fieldset", "figcaption", "figure", "footer", "form", "h1", "h2", "h3", "h4",
    "h5", "h6", "head", "header", "hr", "html", "iframe", "li", "main", "menu", "nav", "noscript",
    "ol", "p", "pre", "script", "section", "style", "table", "tbody", "td", "tfoot", "th", "thead",
    "tr", "ul", "video"]

/-- Whether a text is an element of HTML that stands as a block by itself. -/
def isRawHtml (t : Text) : Bool :=
  blockElements.any fun name =>
    let start := Text.of "<" ++ Text.of name
    let stop := Text.of "</" ++ Text.of name ++ Text.of ">"
    start.isPrefixOf t && ((t.drop start.length).head?.any fun c => c.is '>' || c.is ' ') &&
      stop.isSuffixOf t

/-- The HTML of some lines without headings; blank lines have none. -/
def paragraphHtml (tables : Bool) (lines : List Text) : List Text :=
  let t := Text.joinWith [CodePoint.ofChar '\n'] lines
  if t.isBlank then []
  else match if tables then tableHtml? lines else none with
    | some html => [html]
    | none =>
      if isRawHtml t.trim then [t.trim] else [element "p" (inlineHtml tables t.trimLeft)]

/-- The HTML of a block after some lines that are not finished. A line that starts with number signs
is a heading, and the lines between headings are a paragraph, a table, or HTML that is kept. -/
def blockHtml (tables : Bool) : (pending : List Text) → List Text → List Text
  | pending, [] => paragraphHtml tables pending
  | pending, l :: ls =>
    match if tables && pending.isEmpty then tableHtml? (l :: ls) else none with
    | some html => [html]
    | none =>
      match heading? l with
      | some (level, t) =>
        paragraphHtml tables pending ++
          element (String.ofList ('h' :: Nat.toDigits 10 level)) (inlineHtml tables t) ::
            blockHtml tables [] ls
      | none => blockHtml tables (pending ++ [l]) ls

/-- The runs of lines between empty lines. -/
def blocksOf : (pending : List Text) → List Text → List (List Text)
  | pending, [] => [pending]
  | pending, l :: ls =>
    if l = [] then pending :: blocksOf [] ls else blocksOf (pending ++ [l]) ls

end Markdown

end Stencil
