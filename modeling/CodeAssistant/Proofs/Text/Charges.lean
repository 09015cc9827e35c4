import CodeAssistant.Proofs.Text.Occurrences

namespace CodeAssistant
namespace Text

/-!
# Characters that pay for words

Words that overlap may occur more often in a text than there is room for them side by side.  How
often is bounded by the characters of the text: let each occurrence of a word be charged to two
characters of it, and let no character be charged twice.  Words of which no two stand at the same
position can be charged to characters at fixed places in them (`charges_of_places`), and a pair of
equal characters, which is counted without overlaps, to itself (`charges_pair`).  Charges to
different characters are put together, and they cannot be more than the text is long
(`Charges.le_length`).
-/

/-- In any text the occurrences of the words can be charged to occurrences of the characters, two for
each of them. -/
def Charges (words : List (List Char)) (chars : List Char) : Prop :=
  ∀ text : List Char,
    2 * total (words.map fun word => occurrences word text) ≤ total (chars.map (text.count ·))

variable {words others : List (List Char)} {chars rest : List Char} {c d : Char}

theorem Charges.append (first : Charges words chars) (second : Charges others rest) :
    Charges (words ++ others) (chars ++ rest) := by
  intro text
  rw [List.map_append, List.map_append, total_append, total_append, Nat.mul_add]
  exact Nat.add_le_add (first text) (second text)

/-! ## Words at different positions -/

/-- Words that have a character at the same place do not stand at more positions than there are
occurrences of the character. -/
theorem length_positions_le_count {k : Nat} (place : ∀ word ∈ words, word[k]? = some c)
    (text : List Char) : (positions words text).length ≤ (text.drop k).count c := by
  induction text with
  | nil => exact Nat.zero_le _
  | cons x text ih =>
    have split : (x :: text).drop k = (x :: text)[k]?.toList ++ text.drop k :=
      List.drop_eq_getElem?_toList_append
    rw [length_positions_cons, split, List.count_append]
    refine Nat.add_le_add ?_ ih
    split
    · next stands =>
      obtain ⟨word, member, start⟩ := List.any_eq_true.mp stands
      obtain ⟨behind, whole⟩ := List.isPrefixOf_iff_prefix.mp start
      have inside : k < word.length := (List.getElem?_eq_some_iff.mp (place word member)).1
      have here : (x :: text)[k]? = some c := by
        rw [← whole, List.getElem?_append_left inside, place word member]
      rw [here]
      simp
    · exact Nat.zero_le _

/-- Words without overlaps of their own, of which none begins another, are charged to the characters
that all of them have at two places. -/
theorem charges_of_places (i j : Nat)
    (unbordered : ∀ word ∈ words, IsUnbordered word)
    (apart : words.Pairwise fun word other => ¬word <+: other ∧ ¬other <+: word)
    (first : ∀ word ∈ words, word[i]? = some c) (second : ∀ word ∈ words, word[j]? = some d) :
    Charges words [c, d] := by
  intro text
  have firsts := length_positions_le_count first text
  have seconds := length_positions_le_count second text
  have fewerFirsts := (List.drop_sublist i text).count_le c
  have fewerSeconds := (List.drop_sublist j text).count_le d
  rw [total_occurrences unbordered apart, List.map_cons, List.map_cons, List.map_nil, total_cons,
    total_cons, total_nil]
  omega

/-! ## Words that are counted without overlaps -/

/-- Each occurrence of a word brings its characters, apart from those of an occurrence that has begun
before the text. -/
theorem occurrencesFrom_mul_count_le {word : List Char} (some_word : word ≠ []) (c : Char)
    (used : Nat) (text : List Char) :
    occurrencesFrom word used text * word.count c ≤ (text.drop used).count c := by
  induction text generalizing used with
  | nil => simp [occurrencesFrom]
  | cons x text ih =>
    cases used with
    | succ left => exact ih left
    | zero =>
      rw [occurrencesFrom, List.drop_zero]
      by_cases stands : word.isPrefixOf (x :: text) = true
      · obtain ⟨behind, whole⟩ := List.isPrefixOf_iff_prefix.mp stands
        obtain ⟨first, more, rfl⟩ := List.exists_cons_of_ne_nil some_word
        have joined : more ++ behind = text := (List.cons.inj whole).2
        have tail : text.drop more.length = behind := by
          rw [← joined, List.drop_left]
        have later := ih more.length
        rw [tail] at later
        rw [if_pos stands, ← whole, List.count_append, Nat.add_mul, Nat.one_mul]
        exact Nat.add_le_add_left later _
      · rw [if_neg stands]
        exact Nat.le_trans (ih 0) (List.count_le_count_cons)

/-- Two equal characters are charged to themselves. -/
theorem charges_pair (c : Char) : Charges [[c, c]] [c] := by
  intro text
  have both : [c, c].count c = 2 := by simp
  have pairs := occurrencesFrom_mul_count_le (List.cons_ne_nil c [c]) c 0 text
  rw [both, List.drop_zero, ← occurrences] at pairs
  rw [List.map_singleton, List.map_singleton, total_cons, total_nil, total_cons, total_nil]
  omega

/-! ## Charges in a text -/

/-- Different characters do not occur more often than the text is long. -/
theorem total_count_le_length (distinct : chars.Nodup) (text : List Char) :
    total (chars.map (text.count ·)) ≤ text.length := by
  induction chars generalizing text with
  | nil => exact Nat.zero_le _
  | cons c chars ih =>
    obtain ⟨other, distinct⟩ := List.nodup_cons.mp distinct
    have kept : chars.map (text.count ·) = chars.map ((text.filter (· != c)).count ·) := by
      apply List.map_congr_left
      intro d member
      have different : (d != c) = true := by
        rw [bne_iff_ne]
        rintro rfl
        exact other member
      exact (@List.count_filter _ _ _ (· != c) d text different).symm
    have others := ih distinct (text.filter (· != c))
    have parts : text.length = text.count c + (text.filter (· != c)).length := by
      simpa [bne, beq_eq_decide, List.countP_eq_length_filter, List.count_eq_length_filter] using
        List.length_eq_countP_add_countP (· == c) (l := text)
    rw [List.map_cons, total_cons, kept, parts]
    exact Nat.add_le_add_left others _

/-- Charged words occur at most half as often as the text is long. -/
theorem Charges.le_length (charges : Charges words chars) (distinct : chars.Nodup)
    (text : List Char) :
    2 * total (words.map fun word => occurrences word text) ≤ text.length :=
  Nat.le_trans (charges text) (total_count_le_length distinct text)

end Text
end CodeAssistant
