namespace CodeAssistant

/-!
# Decimal numerals

Counts are written in base ten without leading zeros, and numerals are read digit by digit.
Only the ten ASCII digits are digits; digits of other scripts are letters like any other here.
-/

/-- The numeral of a number. -/
def decimal (n : Nat) : String :=
  String.ofList (Nat.toDigits 10 n)

/-- The value of a digit. -/
def digitValue? (c : Char) : Option Nat :=
  if '0' ≤ c ∧ c ≤ '9' then some (c.toNat - '0'.toNat) else none

/-- The number that a run of digits denotes, if it is one. -/
def digitsValue? (cs : List Char) : Option Nat :=
  cs.foldlM (fun value c => (digitValue? c).map (10 * value + ·)) 0

/-- The numeral, preceded by fill characters up to the given width. -/
def decimalPadded (fill : Char) (width n : Nat) : String :=
  String.ofList ((Nat.toDigits 10 n).leftpad width fill)

end CodeAssistant
