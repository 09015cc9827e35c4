import CodeAssistant.Generation.Prompt
import CodeAssistant.Text.Line
import Mathlib.Data.List.TakeWhile

namespace CodeAssistant
namespace Text

/-!
# Lines and sections of a text

A text that is put together from lines has these lines, if none of them has a line feed in it or a
carriage return at its end (`newlineLines_ofLines`).  With every line feed in one of them it has one
line more (`length_newlineLines_append_feed`).

A section of a text is what stands under a heading, up to an empty line.
-/

/-! ## Lines -/

theorem newlineLinesFrom_feed (line rest : List Char) :
    newlineLinesFrom line ('\n' :: rest) = closeLine line :: newlineLinesFrom [] rest := by
  rw [newlineLinesFrom]

theorem newlineLinesFrom_of_ne {c : Char} (other : c ≠ '\n') (line rest : List Char) :
    newlineLinesFrom line (c :: rest) = newlineLinesFrom (c :: line) rest := by
  rw [newlineLinesFrom]
  exact other

theorem unbroken_closeLine {line : List Char} (unbroken : '\n' ∉ line) : '\n' ∉ closeLine line := by
  rw [closeLine.eq_def]
  split
  · rw [List.mem_reverse]
    exact fun member => unbroken (List.mem_cons_of_mem _ member)
  · rwa [List.mem_reverse]

theorem unbroken_of_mem_newlineLinesFrom {line cs found : List Char} (unbroken : '\n' ∉ line)
    (member : found ∈ newlineLinesFrom line cs) : '\n' ∉ found := by
  fun_induction newlineLinesFrom line cs with
  | case1 line empty => cases member
  | case2 line shown =>
    rw [List.mem_singleton.mp member, List.mem_reverse]
    exact unbroken
  | case3 line rest ih =>
    rcases List.mem_cons.mp member with same | later
    · rw [same]
      exact unbroken_closeLine unbroken
    · exact ih List.not_mem_nil later
  | case4 line c rest other ih =>
    refine ih ?_ member
    rw [List.mem_cons, not_or]
    exact ⟨fun feed => other feed.symm, unbroken⟩

/-- No line has a line feed in it. -/
theorem unbroken_of_mem_newlineLines {line s : String} (member : line ∈ newlineLines s) :
    '\n' ∉ line.toList := by
  obtain ⟨found, member, same⟩ := List.mem_map.mp member
  rw [← same, String.toList_ofList]
  exact unbroken_of_mem_newlineLinesFrom List.not_mem_nil member

theorem newlineLinesFrom_append_feed (line cs rest : List Char) :
    newlineLinesFrom line (cs ++ '\n' :: rest) =
      newlineLinesFrom line (cs ++ ['\n']) ++ newlineLinesFrom [] rest := by
  induction cs generalizing line with
  | nil =>
    rw [List.nil_append, List.nil_append, newlineLinesFrom_feed, newlineLinesFrom_feed]
    rfl
  | cons c cs ih =>
    rw [List.cons_append, List.cons_append]
    by_cases feed : c = '\n'
    · rw [feed, newlineLinesFrom_feed, newlineLinesFrom_feed, ih, List.cons_append]
    · rw [newlineLinesFrom_of_ne feed, newlineLinesFrom_of_ne feed, ih]

/-- A text can be cut behind a line feed. -/
theorem newlineLines_append (first second : String) :
    newlineLines (first ++ "\n" ++ second) =
      newlineLines (first ++ "\n") ++ newlineLines second := by
  have split : (first ++ "\n" ++ second).toList = first.toList ++ '\n' :: second.toList := by simp
  have ended : (first ++ "\n").toList = first.toList ++ ['\n'] := by simp
  rw [newlineLines, split, newlineLinesFrom_append_feed, List.map_append, newlineLines, ended,
    newlineLines]

theorem newlineLines_ofLines_eq_flatMap (lines : List String) :
    newlineLines (Prompt.ofLines lines) =
      lines.flatMap fun line => newlineLines (line ++ "\n") := by
  induction lines with
  | nil => rfl
  | cons line lines ih => rw [Prompt.ofLines_cons, newlineLines_append, ih, List.flatMap_cons]

theorem length_newlineLinesFrom (line cs : List Char) :
    (newlineLinesFrom line (cs ++ ['\n'])).length = cs.count '\n' + 1 := by
  induction cs generalizing line with
  | nil => rfl
  | cons c cs ih =>
    rw [List.cons_append]
    by_cases feed : c = '\n'
    · rw [feed, newlineLinesFrom_feed, List.length_cons, ih, List.count_cons_self]
    · rw [newlineLinesFrom_of_ne feed, ih, List.count_cons_of_ne feed]

/-- Every line feed in a text that is meant for a line makes one more line of it. -/
theorem length_newlineLines_append_feed (s : String) :
    (newlineLines (s ++ "\n")).length = s.toList.count '\n' + 1 := by
  have ended : (s ++ "\n").toList = s.toList ++ ['\n'] := by simp
  rw [newlineLines, List.length_map, ended, length_newlineLinesFrom]

theorem length_newlineLines_ofLines_cons (line : String) (lines : List String) :
    (newlineLines (Prompt.ofLines (line :: lines))).length =
      line.toList.count '\n' + 1 + (newlineLines (Prompt.ofLines lines)).length := by
  rw [Prompt.ofLines_cons, newlineLines_append, List.length_append,
    length_newlineLines_append_feed]

theorem length_le_length_newlineLines_ofLines (lines : List String) :
    lines.length ≤ (newlineLines (Prompt.ofLines lines)).length := by
  induction lines with
  | nil => exact Nat.le_refl 0
  | cons line lines ih =>
    rw [length_newlineLines_ofLines_cons, List.length_cons]
    omega

/-- A text that is put together from lines has as many lines only if each of them is one line. -/
theorem length_newlineLines_ofLines_eq_iff (lines : List String) :
    (newlineLines (Prompt.ofLines lines)).length = lines.length ↔
      ∀ line ∈ lines, '\n' ∉ line.toList := by
  induction lines with
  | nil => exact ⟨fun _ line member => absurd member List.not_mem_nil, fun _ => rfl⟩
  | cons line lines ih =>
    have least := length_le_length_newlineLines_ofLines lines
    rw [List.forall_mem_cons, ← ih, ← List.count_eq_zero, length_newlineLines_ofLines_cons,
      List.length_cons]
    omega

/-- The text is a line of its own when a line feed follows. -/
structure IsLine (s : String) : Prop where
  unbroken : '\n' ∉ s.toList
  closed : s.toList.getLast? ≠ some '\r'

instance (s : String) : Decidable (IsLine s) :=
  decidable_of_iff ('\n' ∉ s.toList ∧ s.toList.getLast? ≠ some '\r')
    ⟨fun line => ⟨line.1, line.2⟩, fun line => ⟨line.1, line.2⟩⟩

theorem unbroken_append_iff {first second : String} :
    '\n' ∉ (first ++ second).toList ↔ '\n' ∉ first.toList ∧ '\n' ∉ second.toList := by
  rw [String.toList_append, List.mem_append, not_or]

theorem getLast?_toList_append {c : Char} {second : String}
    (last : second.toList.getLast? = some c) (first : String) :
    (first ++ second).toList.getLast? = some c := by
  rw [String.toList_append, List.getLast?_append, last, Option.some_or]

/-- It is the end of a line that must not be taken for a part of the line end. -/
theorem IsLine.append {first second : String} (unbroken : '\n' ∉ first.toList)
    (line : IsLine second) (shown : second ≠ "") : IsLine (first ++ second) := by
  refine ⟨unbroken_append_iff.mpr ⟨unbroken, line.unbroken⟩, ?_⟩
  have some_chars : second.toList ≠ [] := shown ∘ String.toList_eq_nil_iff.mp
  rw [getLast?_toList_append (List.getLast?_eq_some_getLast some_chars) first,
    ← List.getLast?_eq_some_getLast some_chars]
  exact line.closed

theorem newlineLinesFrom_of_unbroken {cs : List Char} (unbroken : '\n' ∉ cs) (line : List Char) :
    newlineLinesFrom line (cs ++ ['\n']) = [closeLine (cs.reverse ++ line)] := by
  induction cs generalizing line with
  | nil => rfl
  | cons c cs ih =>
    rw [List.mem_cons, not_or] at unbroken
    rw [List.cons_append, newlineLinesFrom_of_ne (Ne.symm unbroken.1), ih unbroken.2,
      List.reverse_cons, List.append_assoc, List.singleton_append]

theorem closeLine_of_ne {line : List Char} (open_end : line.head? ≠ some '\r') :
    closeLine line = line.reverse := by
  rw [closeLine.eq_def]
  split
  · exact absurd rfl open_end
  · rfl

theorem IsLine.newlineLines {s : String} (line : IsLine s) : newlineLines (s ++ "\n") = [s] := by
  have ended : (s ++ "\n").toList = s.toList ++ ['\n'] := by simp
  have closed : (s.toList.reverse ++ []).head? ≠ some '\r' := by
    rw [List.append_nil, List.head?_reverse]
    exact line.closed
  rw [Text.newlineLines, ended, newlineLinesFrom_of_unbroken line.unbroken, closeLine_of_ne closed,
    List.append_nil, List.reverse_reverse, List.map_singleton, String.ofList_toList]

/-- A text that is put together from lines has these lines. -/
theorem newlineLines_ofLines {lines : List String} (each : ∀ line ∈ lines, IsLine line) :
    newlineLines (Prompt.ofLines lines) = lines := by
  rw [newlineLines_ofLines_eq_flatMap]
  induction lines with
  | nil => rfl
  | cons line lines ih =>
    rw [List.forall_mem_cons] at each
    rw [List.flatMap_cons, each.1.newlineLines, ih each.2, List.singleton_append]

theorem newlineLines_ofLines_append {lines : List String} (each : ∀ line ∈ lines, IsLine line)
    (behind : List String) :
    newlineLines (Prompt.ofLines (lines ++ behind)) =
      lines ++ newlineLines (Prompt.ofLines behind) := by
  rw [newlineLines_ofLines_eq_flatMap, List.flatMap_append, ← newlineLines_ofLines_eq_flatMap,
    ← newlineLines_ofLines_eq_flatMap, newlineLines_ofLines each]

/-! ## Sections -/

/-- The lines under the first such heading, up to an empty line. -/
def sectionUnder (heading text : String) : List String :=
  ((newlineLines text).dropWhile (· != heading)).tail.takeWhile (· != "")

theorem unbroken_of_mem_sectionUnder {heading text line : String}
    (member : line ∈ sectionUnder heading text) : '\n' ∉ line.toList := by
  apply unbroken_of_mem_newlineLines (s := text)
  have behind := (List.takeWhile_sublist _).subset member
  exact (List.dropWhile_sublist _).subset (List.mem_of_mem_tail behind)

theorem sectionUnder_eq {heading text : String} {before items behind : List String}
    (lines : newlineLines text = before ++ heading :: (items ++ behind)) (first : heading ∉ before)
    (shown : ∀ item ∈ items, item ≠ "") (ends : behind.takeWhile (· != "") = []) :
    sectionUnder heading text = items := by
  have passed : ∀ line ∈ before, (line != heading) = true := by
    intro line member
    rw [bne_iff_ne]
    rintro rfl
    exact first member
  have kept : ∀ item ∈ items, (item != "") = true := by
    intro item member
    rw [bne_iff_ne]
    exact shown item member
  rw [sectionUnder, lines, List.dropWhile_append_of_pos passed,
    List.dropWhile_cons_of_neg (by simp), List.tail_cons, List.takeWhile_append_of_pos kept, ends,
    List.append_nil]

/-- An empty line ends a section. -/
theorem takeWhile_ofLines_empty_cons (behind : List String) :
    (newlineLines (Prompt.ofLines ("" :: behind))).takeWhile (· != "") = [] := by
  have empty : IsLine "" := by decide
  rw [Prompt.ofLines_cons, newlineLines_append, empty.newlineLines, List.singleton_append,
    List.takeWhile_cons_of_neg (by decide)]

/-- A list that is written under a heading is found there if and only if each item is one line. -/
theorem sectionUnder_ofLines_iff {heading : String} {before items behind : List String}
    (lines : ∀ line ∈ before, IsLine line) (title : IsLine heading) (first : heading ∉ before)
    (shown : ∀ item ∈ items, item ≠ "") (closed : ∀ item ∈ items, item.toList.getLast? ≠ some '\r')
    (ends : (newlineLines (Prompt.ofLines behind)).takeWhile (· != "") = []) :
    sectionUnder heading (Prompt.ofLines (before ++ heading :: (items ++ behind))) = items ↔
      ∀ item ∈ items, '\n' ∉ item.toList := by
  constructor
  · intro found item member
    rw [← found] at member
    exact unbroken_of_mem_sectionUnder member
  · intro unbroken
    have each : ∀ line ∈ before ++ heading :: items, IsLine line := by
      rw [List.forall_mem_append, List.forall_mem_cons]
      exact ⟨lines, title, fun item member => ⟨unbroken item member, closed item member⟩⟩
    refine sectionUnder_eq ?_ first shown ends
    rw [← List.cons_append, ← List.append_assoc, newlineLines_ofLines_append each,
      List.append_assoc, List.cons_append]

end Text
end CodeAssistant
