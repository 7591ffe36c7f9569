import Stencil.Text.Basic

namespace Stencil

namespace Config

/-- The lines of the default configuration file. -/
def defaultLines : List String :=
  ["# tinhorn configuration",
   "",
   "# Output settings",
   "output:",
   "  # path: \"build/index.html\"  # Omit to write to stdout",
   "  encoding: \"utf-8\"",
   "",
   "# Markdown conversion for fields marked markdown=True",
   "markdown:",
   "  extensions: []  # e.g. [\"tables\", \"fenced_code\"]"]

/-- The text of the default configuration file. Every setting stands in it at its default, with
comments. -/
def defaultText : Text := defaultLines.flatMap fun l => Text.of l ++ [CodePoint.ofChar '\n']

end Config

end Stencil
