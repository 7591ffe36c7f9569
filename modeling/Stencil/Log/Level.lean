import Stencil.Text.Basic

namespace Stencil

namespace Log

/-- A number; five of them have a name and a colour. -/
abbrev Level := Int

namespace Level

def debug : Level := 10

def info : Level := 20

def warning : Level := 30

def error : Level := 40

def critical : Level := 50

def name (l : Level) : Text :=
  if l = debug then Text.of "DEBUG"
  else if l = info then Text.of "INFO"
  else if l = warning then Text.of "WARNING"
  else if l = error then Text.of "ERROR"
  else if l = critical then Text.of "CRITICAL"
  else Text.of "Level " ++ Text.ofInt l

/-- The terminal code of some attributes. -/
def code (digits : String) : Text :=
  CodePoint.ofNat 0x1B :: Text.of "[" ++ Text.of digits ++ Text.of "m"

def reset : Text := code "0"

/-- Gray, green, yellow or red; other levels have no colour. -/
def colour (l : Level) : Text :=
  if l = debug then code "90"
  else if l = info then code "32"
  else if l = warning then code "33"
  else if l = error ∨ l = critical then code "31"
  else reset

end Level

end Log

end Stencil
