import Stencil.Number.Basic

namespace Stencil

/-- Why a configuration is refused. The causes stand in the order in which they are looked for. -/
inductive ConfigError where
  /-- Keys that are no section, sorted. -/
  | unknownSections (names : List Text)
  /-- A key that is neither a section nor a text. -/
  | unnamedSection
  | unset (name : Text)
  | notAMapping (name : Text)
  /-- Extensions that cannot be listed. -/
  | unlistable
  /-- A list of extensions, in its notation, of which one is no text. -/
  | notNames (shown : Text)
  /-- A list of extensions that has no notation. -/
  | tooManyDigits
deriving DecidableEq

namespace ConfigError

def message : ConfigError → Text
  | unknownSections names =>
    Text.of "Unknown config section(s): " ++ Text.joinWith (Text.of ", ") names
  | unnamedSection => Text.of "Config section names must be texts"
  | unset name => Text.of "Environment variable not set: " ++ name
  | notAMapping name => Text.of "Config section '" ++ name ++ Text.of "' must be a mapping"
  | unlistable => Text.of "Markdown extensions must be a list"
  | notNames shown => Text.of "Markdown extensions must be names (got " ++ shown ++ Text.of ")"
  | tooManyDigits => Number.digitMessage none

/-- Whether the error is about the types of some data, not about its values. -/
def isTypeError : ConfigError → Bool
  | unnamedSection => true
  | unlistable => true
  | _ => false

end ConfigError

end Stencil
