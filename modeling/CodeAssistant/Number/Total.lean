namespace CodeAssistant

/-!
# Totals

The counts of parts are added up to the count of the whole.
-/

/-- The sum of the counts.  Its zero is the one in the library's lemmas on natural numbers, whatever
other structure on them is in scope. -/
def total (counts : List Nat) : Nat :=
  @List.sum Nat _ Zero.ofOfNat0 counts

@[simp]
theorem total_nil : total [] = 0 := List.sum_nil

@[simp]
theorem total_cons (count : Nat) (counts : List Nat) :
    total (count :: counts) = count + total counts := List.sum_cons

@[simp]
theorem total_append (first second : List Nat) :
    total (first ++ second) = total first + total second := List.sum_append_nat

theorem total_perm {first second : List Nat} (rearranged : first.Perm second) :
    total first = total second := rearranged.sum_nat

end CodeAssistant
