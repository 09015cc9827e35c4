import CodeAssistant.Text.Blank

namespace CodeAssistant

/-!
# Missing fields

A request whose required field holds nothing but blanks is answered with a remark that names the
first such field, in the order in which the request checks them.
-/

/-- A required field that is blank. -/
inductive MissingField where
  | code | query | language | framework
  deriving DecidableEq, Repr

namespace MissingField

/-- The remark on the missing field. -/
def message : MissingField → String
  | .code => "Error: Code cannot be empty"
  | .query => "Error: Query cannot be empty"
  | .language => "Error: Language must be specified"
  | .framework => "Error: Framework must be specified"

/-- The first of the fields whose text is blank. -/
def first? (fields : List (MissingField × String)) : Option MissingField :=
  (fields.find? fun field => Text.trim field.2 == "").map Prod.fst

end MissingField

end CodeAssistant
