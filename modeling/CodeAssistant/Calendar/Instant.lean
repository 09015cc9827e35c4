import CodeAssistant.Calendar.Date
import CodeAssistant.Number.Decimal

namespace CodeAssistant

/-!
# Instants and their stamps

An instant is a number of seconds since the start of 1970 and a fraction of a second in nanoseconds.
In the last second of a minute the fraction may exceed one second: this is how a leap second is
written, and the stamp shows it as second 60.

The stamp of an instant names its second in a form that sorts: year, month and day, an underscore,
hour, minute and second.
-/

/-- A point in time between the years -262143 and 262142. -/
structure Instant where
  seconds : Int
  nanos : Nat
  inRange : -8334601228800 ≤ seconds ∧ seconds ≤ 8210266876799
  nanos_lt : nanos < 1000000000 ∨ (seconds % 60 = 59 ∧ nanos < 2000000000)

namespace Instant

/-- The instant with these parts, if there is one. -/
def ofParts? (seconds : Int) (nanos : Nat) : Option Instant :=
  if range : -8334601228800 ≤ seconds ∧ seconds ≤ 8210266876799 then
    if fraction : nanos < 1000000000 ∨ (seconds % 60 = 59 ∧ nanos < 2000000000) then
      some ⟨seconds, nanos, range, fraction⟩
    else none
  else none

/-- The start of 1970. -/
def epoch : Instant :=
  ⟨0, 0, by decide, by decide⟩

/-- The second of the day. -/
def secondOfDay (t : Instant) : Nat :=
  (t.seconds % 86400).toNat

/-- The date of the instant. -/
def date (t : Instant) : Date :=
  .ofDays (t.seconds / 86400)

/-- Whether the instant lies in a leap second. -/
def isLeap (t : Instant) : Bool :=
  1000000000 ≤ t.nanos

end Instant

/-- The numeral of a year: four digits up to the year 9999, and a sign and at least four digits for
the years outside. -/
def yearText (year : Int) : String :=
  if 0 ≤ year ∧ year ≤ 9999 then decimalPadded '0' 4 year.toNat
  else (if year < 0 then "-" else "+") ++ decimalPadded '0' 4 year.natAbs

namespace Instant

/-- The stamp of the instant. -/
def stamp (t : Instant) : String :=
  let two := decimalPadded '0' 2
  yearText t.date.year ++ two t.date.month ++ two t.date.day ++ "_" ++
    two (t.secondOfDay / 3600) ++ two (t.secondOfDay / 60 % 60) ++
    two (t.secondOfDay % 60 + if t.isLeap then 1 else 0)

end Instant

end CodeAssistant
