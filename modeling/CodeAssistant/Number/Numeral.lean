import CodeAssistant.Number.Decimal

namespace CodeAssistant

/-!
# Numerals in settings

A numeric setting is a run of digits, which a plus sign may precede.  Digits are taken from the
left, so when a numeral both runs over the limit and holds a wrong character, the fault that comes
first is reported.
-/

/-- What is wrong with a numeral. -/
inductive NumeralError where
  | empty | invalidDigit | tooLarge
  deriving DecidableEq, Repr

namespace NumeralError

/-- The fault in words. -/
def message : NumeralError → String
  | .empty => "cannot parse integer from empty string"
  | .invalidDigit => "invalid digit found in string"
  | .tooLarge => "number too large to fit in target type"

end NumeralError

/-- The number that `value` and the further digits denote, none of which may exceed the limit. -/
def numeralFrom (limit value : Nat) : List Char → Except NumeralError Nat
  | [] => .ok value
  | c :: rest =>
    match digitValue? c with
    | none => .error .invalidDigit
    | some digit =>
      if limit < 10 * value + digit then .error .tooLarge
      else numeralFrom limit (10 * value + digit) rest

/-- The number, at most `limit`, that a numeral denotes. -/
def numeral (limit : Nat) : List Char → Except NumeralError Nat
  | [] => .error .empty
  | ['+'] => .error .invalidDigit
  | '+' :: digits => numeralFrom limit 0 digits
  | digits => numeralFrom limit 0 digits

end CodeAssistant
