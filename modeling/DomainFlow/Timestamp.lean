/-!
# Timestamps

A moment, counted from the start of 1970 in UTC, and its text with date, time and as many digits
of a second as it needs: none, three, six or nine.

## Main definitions

* `Timestamp`
* `Timestamp.date`: its year, month and day
* `Timestamp.render`: its text
-/

namespace DomainFlow

/-- **A moment**: whole seconds since the start of 1970, and nanoseconds. -/
structure Timestamp where
  seconds : Nat
  nanoseconds : Nat
  deriving DecidableEq

namespace Timestamp

/-- The year, month and day of a number of days since the start of 1970. Years are taken to begin
in March, so that a leap day is the last day of its year, and days are counted within eras of four
hundred years. -/
def dateOfDay (day : Nat) : Nat × Nat × Nat :=
  let shifted := day + 719468
  let era := shifted / 146097
  let dayOfEra := shifted % 146097
  let yearOfEra := (dayOfEra - dayOfEra / 1460 + dayOfEra / 36524 - dayOfEra / 146096) / 365
  let dayOfYear := dayOfEra - (365 * yearOfEra + yearOfEra / 4 - yearOfEra / 100)
  let monthFromMarch := (5 * dayOfYear + 2) / 153
  let dayOfMonth := dayOfYear - (153 * monthFromMarch + 2) / 5 + 1
  let month := if monthFromMarch < 10 then monthFromMarch + 3 else monthFromMarch - 9
  let year := yearOfEra + 400 * era
  (if month ≤ 2 then year + 1 else year, month, dayOfMonth)

/-- The year, month and day of a moment. -/
def date (t : Timestamp) : Nat × Nat × Nat := dateOfDay (t.seconds / 86400)

/-- A number with zeros in front up to a width. -/
def padded (width n : Nat) : String :=
  let digits := Nat.toDigits 10 n
  String.ofList (List.replicate (width - digits.length) '0' ++ digits)

/-- The digits of a second behind its point, if it needs any. -/
def fraction (nanoseconds : Nat) : String :=
  if nanoseconds = 0 then ""
  else if nanoseconds % 1000000 = 0 then "." ++ padded 3 (nanoseconds / 1000000)
  else if nanoseconds % 1000 = 0 then "." ++ padded 6 (nanoseconds / 1000)
  else "." ++ padded 9 nanoseconds

/-- **The text of a moment.** -/
def render (t : Timestamp) : String :=
  let (year, month, day) := t.date
  padded 4 year ++ "-" ++ padded 2 month ++ "-" ++ padded 2 day ++ "T" ++
    padded 2 (t.seconds / 3600 % 24) ++ ":" ++ padded 2 (t.seconds / 60 % 60) ++ ":" ++
    padded 2 (t.seconds % 60) ++ fraction t.nanoseconds ++ "Z"

end Timestamp

end DomainFlow
