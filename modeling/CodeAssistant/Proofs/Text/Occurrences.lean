import CodeAssistant.Number.Total
import CodeAssistant.Text.Search
import Mathlib.Data.List.Infix
import Mathlib.Data.List.SplitBy

namespace CodeAssistant
namespace Text

/-!
# Where words stand

Occurrences of a word are counted from the left and without overlaps.  A word that does not end as
it begins cannot overlap itself, so no place where it stands is passed over, and the count is that
of all these places (`occurrences_eq_length_positions`).  A word of two equal characters does
overlap itself: of it there are as many occurrences as there are pairs in the runs of the character
(`occurrences_pair`).
-/

variable {word text rest : List Char} {c d : Char}

/-- The positions of the text at which one of the words stands.  They may overlap. -/
def positions (words : List (List Char)) (text : List Char) : List Nat :=
  (List.range text.length).filter fun i => words.any fun word => word.isPrefixOf (text.drop i)

/-- The longest stretches of the text that consist of nothing but the character. -/
def runs (c : Char) (text : List Char) : List (List Char) :=
  (text.splitBy (· == ·)).filter fun run => run.head? == some c

/-- The number of pairs that the runs of the character can be cut into. -/
def pairsInRuns (c : Char) (text : List Char) : Nat :=
  total ((runs c text).map fun run => run.length / 2)

/-- No proper end of the word is also its beginning. -/
def IsUnbordered (word : List Char) : Prop :=
  ∀ k < word.length, 0 < k → ¬word.drop k <+: word

instance (word : List Char) : Decidable (IsUnbordered word) :=
  inferInstanceAs (Decidable (∀ k < word.length, 0 < k → ¬word.drop k <+: word))

/-! ## Positions -/

theorem length_positions_cons (words : List (List Char)) (c : Char) (text : List Char) :
    (positions words (c :: text)).length =
      (if words.any fun word => word.isPrefixOf (c :: text) then 1 else 0) +
        (positions words text).length := by
  have others : ((List.range text.length).map (· + 1)).filter
        (fun i => words.any fun word => word.isPrefixOf ((c :: text).drop i)) =
      (positions words text).map (· + 1) := by
    rw [List.filter_map]
    rfl
  rw [positions, List.length_cons, List.range_succ_eq_map, List.filter_cons, List.drop_zero, others]
  split
  · rw [List.length_cons, List.length_map, Nat.add_comm]
  · rw [List.length_map, Nat.zero_add]

/-- Words that do not stand at the same position have their positions counted apart. -/
theorem length_positions_add {words : List (List Char)}
    (apart : ∀ other ∈ words, ¬word <+: other ∧ ¬other <+: word) (text : List Char) :
    (positions (word :: words) text).length =
      (positions [word] text).length + (positions words text).length := by
  induction text with
  | nil => rfl
  | cons c text ih =>
    rw [length_positions_cons, length_positions_cons, length_positions_cons, ih]
    by_cases stands : word.isPrefixOf (c :: text) = true
    · have alone : (words.any fun other => other.isPrefixOf (c :: text)) = false := by
        rw [List.any_eq_false]
        intro other member otherStands
        rw [List.isPrefixOf_iff_prefix] at stands otherStands
        rcases List.prefix_or_prefix_of_prefix stands otherStands with shorter | shorter
        · exact (apart other member).1 shorter
        · exact (apart other member).2 shorter
      rw [List.any_cons, stands, alone, List.any_cons, stands]
      simp only [Bool.true_or, if_true, Bool.false_eq_true, if_false]
      omega
    · rw [List.any_cons, List.any_cons, Bool.eq_false_iff.mpr stands]
      simp only [Bool.false_or, List.any_nil, Bool.false_eq_true, if_false]
      omega

theorem positions_nil (text : List Char) : positions [] text = [] :=
  List.filter_eq_nil_iff.mpr fun _ _ => Bool.false_ne_true

/-- An unbordered word that stands at the beginning does not stand again before its end. -/
theorem not_prefix_drop (unbordered : IsUnbordered word) (stands : word <+: text) {k : Nat}
    (after : 0 < k) (inside : k < word.length) : ¬word <+: text.drop k := by
  intro again
  have ending : word.drop k <+: text.drop k := stands.drop k
  refine unbordered k inside after (List.prefix_of_prefix_length_le ending again ?_)
  rw [List.length_drop]
  omega

/-- The characters that belong to an earlier occurrence may be skipped where the word stands at none
of them. -/
theorem occurrencesFrom_eq_length_positions (unbordered : IsUnbordered word) (used : Nat)
    (text : List Char) (free : ∀ i < used, ¬word <+: text.drop i) :
    occurrencesFrom word used text = (positions [word] text).length := by
  induction text generalizing used with
  | nil => rfl
  | cons c text ih =>
    rw [length_positions_cons, List.any_cons, List.any_nil, Bool.or_false]
    cases used with
    | succ left =>
      have absent : ¬word.isPrefixOf (c :: text) = true := by
        rw [List.isPrefixOf_iff_prefix]
        exact free 0 (Nat.zero_lt_succ left)
      rw [occurrencesFrom, if_neg absent, Nat.zero_add]
      apply ih
      intro i before
      exact free (i + 1) (Nat.succ_lt_succ before)
    | zero =>
      rw [occurrencesFrom]
      by_cases stands : word.isPrefixOf (c :: text) = true
      · rw [if_pos stands, if_pos stands]
        congr 1
        apply ih
        intro i before
        rw [List.isPrefixOf_iff_prefix] at stands
        exact not_prefix_drop unbordered stands (Nat.zero_lt_succ i) (by omega)
      · rw [if_neg stands, if_neg stands, Nat.zero_add]
        apply ih
        intro i before
        exact absurd before (Nat.not_lt_zero i)

theorem occurrences_eq_length_positions (unbordered : IsUnbordered word) (text : List Char) :
    occurrences word text = (positions [word] text).length := by
  apply occurrencesFrom_eq_length_positions unbordered
  intro i before
  exact absurd before (Nat.not_lt_zero i)

/-- Unbordered words, none of which begins another, occur as often as there are positions at which
one of them stands. -/
theorem total_occurrences {words : List (List Char)}
    (unbordered : ∀ word ∈ words, IsUnbordered word)
    (apart : words.Pairwise fun word other => ¬word <+: other ∧ ¬other <+: word)
    (text : List Char) :
    total (words.map fun word => occurrences word text) = (positions words text).length := by
  induction words with
  | nil => rw [positions_nil, List.map_nil, total_nil, List.length_nil]
  | cons word words ih =>
    rw [List.forall_mem_cons] at unbordered
    rw [List.pairwise_cons] at apart
    rw [List.map_cons, total_cons, ih unbordered.2 apart.2, length_positions_add apart.1,
      occurrences_eq_length_positions unbordered.1]

/-! ## Runs -/

theorem occurrences_pair_cons_of_ne (other : d ≠ c) (rest : List Char) :
    occurrences [c, c] (d :: rest) = occurrences [c, c] rest := by
  have absent : ¬[c, c].isPrefixOf (d :: rest) = true := by simp [Ne.symm other]
  rw [occurrences, occurrencesFrom, if_neg absent, occurrences]

theorem occurrences_pair_replicate_of_ne (other : d ≠ c) (n : Nat) (rest : List Char) :
    occurrences [c, c] (List.replicate n d ++ rest) = occurrences [c, c] rest := by
  induction n with
  | zero => rfl
  | succ n ih => rw [List.replicate_succ, List.cons_append, occurrences_pair_cons_of_ne other, ih]

/-- A run is used up in pairs, and one character may be left over. -/
theorem occurrences_pair_replicate (n : Nat) (ends : rest.head? ≠ some c) :
    occurrences [c, c] (List.replicate n c ++ rest) = n / 2 + occurrences [c, c] rest := by
  induction n using Nat.twoStepInduction with
  | zero => rw [List.replicate_zero, List.nil_append, Nat.zero_div, Nat.zero_add]
  | one =>
    have absent : ¬[c, c].isPrefixOf (c :: rest) = true := by
      cases rest with
      | nil => simp
      | cons d rest =>
        have other : c ≠ d := fun same => ends (congrArg some same.symm)
        simp [other]
    rw [List.replicate_one, List.singleton_append, occurrences, occurrencesFrom, if_neg absent,
      occurrences, Nat.zero_add]
  | more n ih _ =>
    have stands : [c, c].isPrefixOf (c :: c :: (List.replicate n c ++ rest)) = true := by simp
    have half : (n + 2) / 2 = 1 + n / 2 := by omega
    rw [List.replicate_succ, List.replicate_succ, List.cons_append, List.cons_append, half,
      Nat.add_assoc, ← ih, occurrences, occurrencesFrom, if_pos stands]
    rfl

theorem eq_replicate_of_isChain {run : List Char} (uniform : run.IsChain fun x y => (x == y) = true)
    (first : run.head? = some d) : run = List.replicate run.length d := by
  simp only [beq_iff_eq] at uniform
  exact List.isChain_eq_iff_eq_replicate.mp uniform d first

/-- What comes after a run of the character does not go on with it. -/
theorem head?_flatten_ne {run : List Char} {others : List (List Char)}
    (alike : ∀ x ∈ run, x = c)
    (apart : (run :: others).IsChain fun run next =>
      ∃ last first, (run.getLast last == next.head first) = false) :
    others.flatten.head? ≠ some c := by
  cases others with
  | nil => exact (Option.some_ne_none c).symm
  | cons next others =>
    rcases (List.isChain_cons_cons.mp apart).1 with ⟨last, first, differ⟩
    rw [alike _ (List.getLast_mem last), beq_eq_false_iff_ne] at differ
    rw [List.flatten_cons, List.head?_append_of_ne_nil _ first, List.head?_eq_some_head first]
    intro same
    exact differ (Option.some.inj same).symm

/-- The stretches are gone through one after the other. -/
theorem occurrences_pair_flatten {stretches : List (List Char)} (shown : [] ∉ stretches)
    (uniform : ∀ run ∈ stretches, run.IsChain fun x y => (x == y) = true)
    (apart : stretches.IsChain fun run next =>
      ∃ last first, (run.getLast last == next.head first) = false) :
    occurrences [c, c] stretches.flatten =
      total ((stretches.filter fun run => run.head? == some c).map fun run => run.length / 2) := by
  induction stretches with
  | nil => rfl
  | cons run others ih =>
    rw [List.mem_cons, not_or] at shown
    rw [List.forall_mem_cons] at uniform
    have rest := ih shown.2 uniform.2 apart.tail
    cases run with
    | nil => exact absurd rfl shown.1
    | cons d run =>
      have whole : d :: run = List.replicate (d :: run).length d :=
        eq_replicate_of_isChain uniform.1 rfl
      rw [List.flatten_cons, List.filter_cons, List.head?_cons]
      by_cases same : d = c
      · subst same
        have alike : ∀ x ∈ d :: run, x = d := by
          rw [whole]
          exact fun x member => List.eq_of_mem_replicate member
        rw [if_pos (beq_self_eq_true _), List.map_cons, total_cons, ← rest]
        conv_lhs => rw [whole]
        exact occurrences_pair_replicate _ (head?_flatten_ne alike apart)
      · have other : ¬(some d == some c) = true := by simpa using same
        rw [if_neg other, ← rest]
        conv_lhs => rw [whole]
        exact occurrences_pair_replicate_of_ne same _ _

/-- The occurrences of a pair of equal characters are the pairs in the runs of the character. -/
theorem occurrences_pair (c : Char) (text : List Char) :
    occurrences [c, c] text = pairsInRuns c text := by
  have cut := occurrences_pair_flatten (c := c) (List.nil_notMem_splitBy (· == ·) text)
    (fun _ member => List.isChain_of_mem_splitBy member)
    (List.isChain_getLast_head_splitBy (· == ·) text)
  rw [List.flatten_splitBy] at cut
  exact cut

end Text
end CodeAssistant
