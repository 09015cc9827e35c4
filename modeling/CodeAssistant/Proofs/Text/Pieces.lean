import CodeAssistant.Text.Search

namespace CodeAssistant
namespace Text

/-!
# Texts cut at a separator

A text is cut at each of its separators, and no piece has one.  Cutting and joining with the
separator are inverse to each other (`join_cut`, `cut_join`), and cutting a text at one separator
first makes no difference to its pieces (`cut_append`).
-/

variable {separator : Char}

/-- The pieces of a text before, between and behind its separators. -/
def cut (separator : Char) (s : String) : List String :=
  (pieces separator s.toList).map String.ofList

theorem piecesFrom_eq (separator : Char) (piece text : List Char) :
    piecesFrom separator piece text = text.splitOnPPrepend (· == separator) piece := by
  induction text generalizing piece with
  | nil => rw [piecesFrom, List.splitOnPPrepend_nil]
  | cons c text ih =>
    rw [piecesFrom, List.splitOnPPrepend_cons_eq_if, ih, ih, List.splitOnPPrepend_nil_right]
    simp only [beq_iff_eq]

theorem pieces_eq_splitOn (separator : Char) (text : List Char) :
    pieces separator text = text.splitOn separator := by
  rw [pieces, piecesFrom_eq, List.splitOnPPrepend_nil_right, List.splitOn_eq_splitOnP]

theorem lacks_of_mem_piecesFrom {piece text found : List Char} (lacks : separator ∉ piece)
    (member : found ∈ piecesFrom separator piece text) : separator ∉ found := by
  induction text generalizing piece with
  | nil =>
    rw [piecesFrom, List.mem_singleton] at member
    rwa [member, List.mem_reverse]
  | cons c text ih =>
    rw [piecesFrom] at member
    split at member
    · rcases List.mem_cons.mp member with rfl | later
      · rwa [List.mem_reverse]
      · exact ih List.not_mem_nil later
    · next other =>
      refine ih ?_ member
      rw [List.mem_cons, not_or]
      exact ⟨Ne.symm other, lacks⟩

theorem lacks_of_mem_cut {s piece : String} (member : piece ∈ cut separator s) :
    separator ∉ piece.toList := by
  obtain ⟨found, cut_out, rfl⟩ := List.mem_map.mp member
  rw [String.toList_ofList]
  exact lacks_of_mem_piecesFrom List.not_mem_nil cut_out

theorem cut_append (separator : Char) (first second : String) :
    cut separator (first ++ String.singleton separator ++ second) =
      cut separator first ++ cut separator second := by
  have chars : (first ++ String.singleton separator ++ second).toList =
      first.toList ++ separator :: second.toList := by simp
  rw [cut, chars, pieces_eq_splitOn, List.splitOn_append_cons_self, List.map_append,
    ← pieces_eq_splitOn, ← pieces_eq_splitOn, cut, cut]

theorem join_cut (separator : Char) (s : String) :
    join (String.singleton separator) (cut separator s) = s := by
  have chars : (cut separator s).map String.toList = s.toList.splitOn separator := by
    rw [cut, List.map_map, pieces_eq_splitOn]
    simp
  rw [← String.toList_inj, join, String.toList_intercalate, chars, String.toList_singleton,
    List.intercalate_splitOn]

/-- Pieces without separators are found again when they are joined. -/
theorem cut_join {words : List String} (lack : ∀ word ∈ words, separator ∉ word.toList)
    (some_words : words ≠ []) : cut separator (join (String.singleton separator) words) = words := by
  have lacks : ∀ piece ∈ words.map String.toList, separator ∉ piece := by
    intro piece member
    obtain ⟨word, given, rfl⟩ := List.mem_map.mp member
    exact lack word given
  rw [cut, join, String.toList_intercalate, String.toList_singleton, pieces_eq_splitOn,
    List.splitOn_intercalate separator lacks (by simpa using some_words), List.map_map]
  simp

end Text
end CodeAssistant
