import Stencil.Text.Basic

namespace Stencil

namespace Cli

/-- An option has a long name and perhaps a letter, and perhaps takes a value. -/
structure OptionSpec where
  long : String
  short : Option Char := none
  takesValue : Bool := false

/-- Arguments that are told apart, each kind in the order given. -/
structure Arguments where
  flags : List String := []
  values : List (String × Text) := []
  rest : List Text := []

namespace Arguments

def hasFlag (a : Arguments) (long : String) : Bool := a.flags.contains long

/-- The value of an option; the last one counts. -/
def value? (a : Arguments) (long : String) : Option Text := a.values.reverse.lookup long

/-- What one argument brings: flags and values, and the option whose value comes next. -/
structure Step where
  flags : List String := []
  values : List (String × Text) := []
  awaiting : Option String := none

def hyphens : Text := Text.of "--"

/-- Whether an argument is an option, or some letters of options. -/
def isOption (t : Text) : Bool := t.head?.any (fun c => c.is '-') && 1 < t.length

/-- The letters behind one hyphen. A letter that takes a value takes the rest of them. -/
def readLetters (specs : List OptionSpec) : Text → Option Step
  | [] => some {}
  | c :: r =>
    match specs.find? fun s => s.short.any fun l => c.is l with
    | none => none
    | some s =>
      if s.takesValue then
        some (if r = [] then { awaiting := some s.long } else { values := [(s.long, r)] })
      else (readLetters specs r).map fun step => { step with flags := s.long :: step.flags }

/-- An option by its long name, perhaps with a value behind an equals sign, or by letters. -/
def readOption (specs : List OptionSpec) (t : Text) : Option Step :=
  let cut := Text.cut? (Text.of "=") t
  let name := (cut.map Prod.fst).getD t
  match specs.find? fun s => hyphens ++ Text.of s.long == name, cut with
  | some s, some (_, v) => if s.takesValue then some { values := [(s.long, v)] } else none
  | some s, none =>
    some (if s.takesValue then { awaiting := some s.long } else { flags := [s.long] })
  | none, _ => if hyphens.isPrefixOf t then none else readLetters specs t.tail

/-- Tells arguments apart. Two hyphens end the options, and so may what is no option; `none` if an
option is unknown or lacks its value, or a flag has one. -/
def read (specs : List OptionSpec) (interspersed : Bool) :
    (awaiting : Option String) → List Text → Option Arguments
  | none, [] => some {}
  | some _, [] => none
  | some long, t :: ts =>
    (read specs interspersed none ts).map fun a => { a with values := (long, t) :: a.values }
  | none, t :: ts =>
    if t = hyphens then some { rest := ts }
    else if !isOption t then
      if interspersed then
        (read specs interspersed none ts).map fun a => { a with rest := t :: a.rest }
      else some { rest := t :: ts }
    else
      match readOption specs t with
      | none => none
      | some step =>
        (read specs interspersed step.awaiting ts).map fun a =>
          { a with flags := step.flags ++ a.flags, values := step.values ++ a.values }

end Arguments

end Cli

end Stencil
