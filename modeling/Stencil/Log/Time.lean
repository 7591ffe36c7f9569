import Stencil.Number.Places

namespace Stencil

namespace Log

/-- A day of the calendar. -/
structure Day where
  year : Int
  month : Nat
  day : Nat
deriving DecidableEq

namespace Day

/-- The day that is `n` days after the first day of 1970. The calendar repeats every 400 years, and
a year is counted from March, so that a leap day comes last. -/
def ofEpoch (n : Int) : Day :=
  let z := n + 719468
  let cycle := z.fdiv 146097
  let ofCycle := (z.fmod 146097).toNat
  let yearOfCycle :=
    (ofCycle - ofCycle / 1460 + ofCycle / 36524 - ofCycle / 146096) / 365
  let ofYear := ofCycle - (365 * yearOfCycle + yearOfCycle / 4 - yearOfCycle / 100)
  let fromMarch := (5 * ofYear + 2) / 153
  let month := if fromMarch < 10 then fromMarch + 3 else fromMarch - 9
  { year := yearOfCycle + cycle * 400 + (if month ≤ 2 then 1 else 0)
    month
    day := ofYear - (153 * fromMarch + 2) / 5 + 1 }

end Day

/-- Milliseconds from the start of 1970, in universal time. -/
abbrev Moment := Int

/-- Why a moment has no date. -/
inductive MomentError where
  /-- The calendar goes from the year 1 to the year 9999. -/
  | yearOutOfRange (year : Int)
deriving DecidableEq

def MomentError.message : MomentError → Text
  | yearOutOfRange year => Text.of "year " ++ Text.ofInt year ++ Text.of " is out of range"

/-- A moment in whole seconds and microseconds. -/
structure Clock where
  seconds : Int
  micros : Nat
deriving DecidableEq

namespace Moment

/-- A moment on the clock. It is first kept as a binary number of seconds, and what is left of the
second is counted in microseconds after that. So the last digit of a moment far from 1970 may be off
by one. -/
def clock (t : Moment) : Clock :=
  match Binary64.ofRatio (t < 0) t.natAbs 1000 with
  | .finite negative m e =>
    let (n, d) := Binary64.Shortest.power 2 e
    let whole := m * n / d
    let part := m * n % d
    let micros :=
      match Binary64.ofRatio false (part * 1000000) d with
      | .finite _ m e => Binary64.scaled m e 0
      | _ => 0
    let total : Int := (whole : Int) * 1000000 + micros
    let total := if negative then -total else total
    ⟨Int.fdiv total 1000000, (Int.fmod total 1000000).toNat⟩
  | _ => ⟨Int.fdiv t 1000, (Int.fmod t 1000).toNat * 1000⟩

end Moment

namespace Clock

/-- Decimal digits, with zeros in front up to a width. -/
def padded (width n : Nat) : Text :=
  let ds := Text.ofNat n
  Text.replicate (width - ds.length) '0' ++ ds

def day (c : Clock) : Day := Day.ofEpoch (Int.fdiv c.seconds 86400)

/-- Hours, minutes and seconds. -/
def timeOfDay (c : Clock) : Text :=
  let s := (Int.fmod c.seconds 86400).toNat
  padded 2 (s / 3600) ++ Text.of ":" ++ padded 2 (s / 60 % 60) ++ Text.of ":" ++ padded 2 (s % 60)

/-- The date. -/
def date (c : Clock) : Text :=
  let d := c.day
  padded 4 d.year.toNat ++ Text.of "-" ++ padded 2 d.month ++ Text.of "-" ++ padded 2 d.day

/-- The fraction of the second, unless it is zero. -/
def fraction (c : Clock) : Text :=
  if c.micros = 0 then [] else Text.of "." ++ padded 6 c.micros

/-- Date, time and offset from universal time. -/
def full (c : Clock) : Text :=
  c.date ++ Text.of "T" ++ c.timeOfDay ++ c.fraction ++ Text.of "+00:00"

/-- Whether the year can be written. -/
def checkYear (year : Int) : Except MomentError Unit :=
  if 1 ≤ year ∧ year ≤ 9999 then .ok () else .error (.yearOutOfRange year)

end Clock

namespace Moment

/-- Date, time and offset from universal time. -/
def full (t : Moment) : Except MomentError Text := do
  let c := t.clock
  Clock.checkYear c.day.year
  return c.full

/-- The time of day at the place of the clock. Whether the place has just set its clock back is
looked up a day earlier, so that day has to be in the calendar too. -/
def timeOfDay (t : Moment) : Except MomentError Text := do
  let c := t.clock
  Clock.checkYear c.day.year
  Clock.checkYear (Day.ofEpoch (Int.fdiv (c.seconds - 86400) 86400)).year
  return c.timeOfDay

end Moment

end Log

end Stencil
