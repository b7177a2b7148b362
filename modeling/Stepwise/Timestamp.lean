import Stepwise.Text

/-! # Timestamps

A moment is given by the microseconds since the start of 1970 in universal time; moments before it
are negative. `Timestamp.write` gives the date and the time of day to the millisecond, the rest
being dropped. The date is found by counting days in eras of 400 years whose years start in March,
so that a leap day is the last day of its year. -/

namespace Stepwise.Timestamp

/-- A date of the Gregorian calendar. -/
structure Date where
  /-- The year. -/
  year : Int
  /-- The month, from 1 to 12. -/
  month : Nat
  /-- The day of the month, from 1. -/
  day : Nat
  deriving DecidableEq, Repr

/-- The number of days in an era of 400 years. -/
def daysPerEra : Int := 146097

/-- The date a number of days after the first day of 1970. -/
def dateOfDays (days : Int) : Date :=
  let shifted := days + 719468
  let era := shifted.fdiv daysPerEra
  let dayOfEra := (shifted.fmod daysPerEra).toNat
  let yearOfEra := (dayOfEra - dayOfEra / 1460 + dayOfEra / 36524 - dayOfEra / 146096) / 365
  let dayOfYear := dayOfEra - (365 * yearOfEra + yearOfEra / 4 - yearOfEra / 100)
  let monthFromMarch := (5 * dayOfYear + 2) / 153
  let day := dayOfYear - (153 * monthFromMarch + 2) / 5 + 1
  let month := if monthFromMarch < 10 then monthFromMarch + 3 else monthFromMarch - 9
  let year : Int := yearOfEra + era * 400
  ⟨if month ≤ 2 then year + 1 else year, month, day⟩

/-- The moment as a date and a time in universal time, to the millisecond. -/
def write (micros : Int) : String :=
  let millis := micros.fdiv 1000
  let date := dateOfDays (millis.fdiv 86400000)
  let millisOfDay := (millis.fmod 86400000).toNat
  let seconds := millisOfDay / 1000
  Text.decimal 4 date.year.toNat ++ "-" ++ Text.decimal 2 date.month ++ "-" ++
    Text.decimal 2 date.day ++ "T" ++ Text.decimal 2 (seconds / 3600) ++ ":" ++
    Text.decimal 2 (seconds / 60 % 60) ++ ":" ++ Text.decimal 2 (seconds % 60) ++ "." ++
    Text.decimal 3 (millisOfDay % 1000) ++ "Z"

/-- The days are counted from the first one of 1970. -/
example : dateOfDays 0 = ⟨1970, 1, 1⟩ := by decide

/-- A leap day at the end of a century that is a multiple of 400. -/
example : dateOfDays 11016 = ⟨2000, 2, 29⟩ := by decide

end Stepwise.Timestamp
