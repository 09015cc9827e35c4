namespace CodeAssistant

/-!
# Dates of the proleptic Gregorian calendar

Days are counted from the first of January 1970.  The year is taken to start in March, so that a
leap day is the last day of its year; the calendar then repeats every 400 years, which is one *era*.
-/

/-- A day of the Gregorian calendar, extended to all years. -/
structure Date where
  year : Int
  month : Nat
  day : Nat
  deriving DecidableEq, Repr

namespace Date

/-- The days of an era. -/
def eraDays : Nat := 146097

/-- The year of the era, counted from zero, in which its `n`-th day falls. -/
def yearOfEra (n : Nat) : Nat :=
  (n - n / 1460 + n / 36524 - n / 146096) / 365

/-- The day of the era on which its `y`-th year starts. -/
def yearStart (y : Nat) : Nat :=
  365 * y + y / 4 - y / 100

/-- The month, counted from March, in which the `n`-th day of a year falls. -/
def monthOfYear (n : Nat) : Nat :=
  (5 * n + 2) / 153

/-- The day of the year on which its `m`-th month, counted from March, starts. -/
def monthStart (m : Nat) : Nat :=
  (153 * m + 2) / 5

/-- The date that is the given number of days after the first of January 1970. -/
def ofDays (days : Int) : Date :=
  let shifted := days + 719468
  let era := shifted / eraDays
  let dayOfEra := (shifted % eraDays).toNat
  let year := yearOfEra dayOfEra
  let dayOfYear := dayOfEra - yearStart year
  let month := monthOfYear dayOfYear
  let inJanuaryOrFebruary := 10 ≤ month
  { year := era * 400 + year + (if inJanuaryOrFebruary then 1 else 0)
    month := if inJanuaryOrFebruary then month - 9 else month + 3
    day := dayOfYear - monthStart month + 1 }

end Date

end CodeAssistant
