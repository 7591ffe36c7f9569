import Stencil.Config.Load
import Stencil.Proofs.FileSystem.Kinds

namespace Stencil

/-- Directories with some names, each in the one before. -/
def Entry.nested (names : List Text) : Entry :=
  names.foldr (fun n e => .directory [(n, e)]) (.directory [])

/-- In a chain of directories there are these directories and nothing else. -/
theorem Entry.kindAt_nested (names place : List Text) :
    (nested names).kindAt place = if place <+: names then some .directory else none := by
  induction names generalizing place with
  | nil =>
    cases place with
    | nil => rfl
    | cons n ns => simp [nested, kindAt_directory_cons]
  | cons m names ih =>
    cases place with
    | nil => rfl
    | cons n ns =>
      rw [nested, List.foldr_cons, kindAt_directory_cons, List.lookup_cons]
      by_cases hn : n = m
      · subst hn
        simpa [nested] using ih ns
      · have hn' : (n == m) = false := by simpa using hn
        simp [hn', List.cons_prefix_cons, hn]

namespace Config

/-- A place whose path is so long that no path of a configuration file in it can be used. -/
def deepPlace : List Text := List.replicate 16 (Text.replicate 254 'n')

/-- Each name of the deep place is short enough for the system. -/
theorem names_deepPlace : ∀ n ∈ deepPlace, Path.IsName n ∧ Path.IsClean n := by
  intro n hn
  rw [List.eq_of_mem_replicate hn]
  decide +kernel

/-- The place that counts before all others. -/
def firstPlace (directory : List Text) : List Text :=
  directory ++ [Text.of ".tinhorn", Text.of "config.yaml"]

theorem basesOf_eq_cons (reversed : List Text) :
    ∃ more, basesOf reversed = reversed.reverse :: more := by
  cases reversed with
  | nil => exact ⟨[], rfl⟩
  | cons n ns => exact ⟨basesOf ns, rfl⟩

/-- The search looks first at the own configuration of the directory it starts from. -/
theorem places_eq_cons (directory : List Text) :
    ∃ more, places directory = firstPlace directory :: more := by
  obtain ⟨above, hbases⟩ := basesOf_eq_cons directory.reverse
  rw [places, hbases, List.reverse_reverse]
  exact ⟨_, rfl⟩

variable {document : Text → Except ReadError Data} {fs : FileSystem}

end Config

end Stencil
