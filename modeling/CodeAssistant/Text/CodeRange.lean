namespace CodeAssistant
namespace Text

/-!
# Blocks of code points

The character properties of this library are finite unions of blocks.  A table is a list of blocks
in increasing order, and a property holds of a character when some block contains its code point.
-/

/-- The code points from `first` to `last`, both included. -/
structure CodeRange where
  first : Nat
  last : Nat
  deriving DecidableEq

namespace CodeRange

/-- Whether the block holds the code point. -/
def contains (r : CodeRange) (n : Nat) : Bool :=
  r.first ≤ n && n ≤ r.last

/-- Whether one of the blocks holds the code point. -/
def anyContains (table : List CodeRange) (n : Nat) : Bool :=
  table.any (fun r => r.contains n)

theorem anyContains_iff {table : List CodeRange} {n : Nat} :
    anyContains table n = true ↔ ∃ r ∈ table, r.first ≤ n ∧ n ≤ r.last := by
  simp [anyContains, contains]

end CodeRange

end Text
end CodeAssistant
