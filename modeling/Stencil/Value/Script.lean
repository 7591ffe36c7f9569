import Stencil.Number.Basic

namespace Stencil

/-- What can go wrong while a value is shown, apart from the place it is written to. -/
inductive Fault where
  /-- A signalling decimal was asked whether it differs from zero. -/
  | undefinedTruth
  /-- A sequence was asked for a length that no machine word holds. -/
  | overlong
  /-- An attribute that is not set was read. -/
  | unset (name : Text)
  /-- A custom value gave up. -/
  | raised (reason : Text)
  /-- A section reaches past the last block. -/
  | pastEnd
  /-- A Markdown extension that does not exist. -/
  | unknownExtension (name : Text)
  /-- A whole number with too many digits was to be written. -/
  | tooManyDigits
deriving DecidableEq

/-- What is asked of an encoder. -/
inductive Request where
  | asIs (t : Text)
  | escaped (t : Text)
  | number (n : Number)
deriving DecidableEq

/-- Requests in order, and the fault that ends them, if any. -/
structure Script where
  requests : List Request
  fault : Option Fault := none
deriving DecidableEq

namespace Script

def done : Script := ⟨[], none⟩

def ask (r : Request) : Script := ⟨[r], none⟩

def fail (f : Fault) : Script := ⟨[], some f⟩

/-- One script and then another, unless the first one stops. -/
def andThen (a b : Script) : Script :=
  match a.fault with
  | none => ⟨a.requests ++ b.requests, b.fault⟩
  | some _ => a

/-- A script for each item in order. -/
def each {α : Type} (f : α → Script) : List α → Script
  | [] => done
  | x :: xs => (f x).andThen (each f xs)

/-- A script that depends on an answer which may be a fault. -/
def answer {α : Type} (x : Except Fault α) (f : α → Script) : Script :=
  match x with
  | .ok a => f a
  | .error e => fail e

@[simp] theorem done_andThen (a : Script) : done.andThen a = a := rfl

@[simp] theorem andThen_done (a : Script) : a.andThen done = a := by
  obtain ⟨rs, _ | f⟩ := a <;> simp [andThen, done]

theorem andThen_assoc (a b c : Script) : (a.andThen b).andThen c = a.andThen (b.andThen c) := by
  obtain ⟨rs, _ | e⟩ := a
  · obtain ⟨qs, _ | f⟩ := b <;> simp [andThen]
  · rfl

end Script

end Stencil
