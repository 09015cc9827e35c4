import CodeAssistant.Json.Value

namespace CodeAssistant
namespace Json

/-!
# Records in JSON

A record is transmitted as an object, or as an array of its fields in the order in which the record
declares them.  Members of the object that are not fields of the record are skipped, and a field
must not be given twice; an array may stop early but must not go on after the last field.  Whether a
missing field is an error is decided field by field, and no value is ever converted to another kind.
-/

/-- The fields that are present, with their names. -/
abbrev Fields := List (String × Json)

/-- The fields of a record with the given field names. -/
def fields? (names : List String) : Json → Option Fields
  | .object members =>
    let known := members.filter fun m => names.contains m.1
    if (known.map Prod.fst).Nodup then some known else none
  | .array items => if items.length ≤ names.length then some (names.zip items) else none
  | _ => none

namespace Fields

/-- The field, which must be present. -/
def required (fields : Fields) (name : String) (decode : Json → Option α) : Option α :=
  (fields.lookup name).bind decode

/-- The field, or the default where it is missing. -/
def withDefault (fields : Fields) (name : String) (default : α) (decode : Json → Option α) :
    Option α :=
  match fields.lookup name with
  | some value => decode value
  | none => some default

end Fields

/-- A text. -/
def text? : Json → Option String
  | .string text => some text
  | _ => none

/-- A truth value. -/
def bool? : Json → Option Bool
  | .bool value => some value
  | _ => none

/-- A whole number without sign, fraction or exponent. -/
def nat? : Json → Option Nat
  | .number literal => digitsValue? literal.toList
  | _ => none

/-- A whole number below 256. -/
def byte? (value : Json) : Option UInt8 :=
  (nat? value).bind fun n => if n < 256 then some (UInt8.ofNat n) else none

/-- A list of values of one kind. -/
def list? (decode : Json → Option α) : Json → Option (List α)
  | .array items => items.mapM decode
  | _ => none

/-- A value of one kind, or null. -/
def optional? (decode : Json → Option α) : Json → Option (Option α)
  | .null => some none
  | value => (decode value).map some

end Json
end CodeAssistant
