namespace CodeAssistant

/-!
# Environment variables

The variables of a program are a list of names and values.  The first entry for a name is the one
that counts, so a variable that is already set is never changed by adding another value for it.
-/

/-- Variables and their values; the first entry for a name counts. -/
structure Environment where
  entries : List (String × String)
  deriving Repr

namespace Environment

/-- No variable is set. -/
def empty : Environment := ⟨[]⟩

/-- The value of a variable, if it is set. -/
def value? (environment : Environment) (name : String) : Option String :=
  environment.entries.lookup name

/-- The value of a variable, or the default where it is not set.  A variable that is set to the
empty text keeps it. -/
def valueOr (environment : Environment) (name default : String) : String :=
  (environment.value? name).getD default

/-- Set a variable unless it is set already. -/
def setIfAbsent (environment : Environment) (name value : String) : Environment :=
  ⟨environment.entries ++ [(name, value)]⟩

theorem value?_setIfAbsent (environment : Environment) (name value other : String) :
    (environment.setIfAbsent name value).value? other =
      (environment.value? other).or (if other = name then some value else none) := by
  by_cases same : other = name
  · simp [setIfAbsent, value?, List.lookup_append, same]
  · have differs : (other == name) = false := by simpa using same
    simp [setIfAbsent, value?, List.lookup_append, List.lookup_cons, same, differs]

end Environment

end CodeAssistant
