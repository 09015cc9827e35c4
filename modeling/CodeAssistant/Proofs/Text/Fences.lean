import CodeAssistant.Text.Search
import Mathlib.Data.List.TakeWhile

namespace CodeAssistant
namespace Text

/-!
# Code blocks between fences

A fence is a line of backticks.  The first one opens a block of code, and the next one that is not
shorter closes it, so a block cannot hold just any lines.  Let a text show some lines under a heading
between two equal fences, the second of which is its last line.  Then they can be read back exactly
when none of them closes the block and no earlier heading has a fence after it
(`codeBlockUnder?_eq_iff`).
-/

/-! ## Lines between line feeds -/

/-- The lines of a text: what stands before, between and behind its line feeds. -/
def feedLines (s : String) : List (List Char) :=
  s.toList.splitOn '\n'

/-- The text with the given lines. -/
def ofFeedLines (lines : List (List Char)) : String :=
  String.ofList (['\n'].intercalate lines)

theorem ofFeedLines_feedLines (s : String) : ofFeedLines (feedLines s) = s := by
  rw [ofFeedLines, feedLines, List.intercalate_splitOn, String.ofList_toList]

theorem feedLines_append (first second : String) :
    feedLines (first ++ "\n" ++ second) = feedLines first ++ feedLines second := by
  have split : (first ++ "\n" ++ second).toList = first.toList ++ '\n' :: second.toList := by simp
  rw [feedLines, split, List.splitOn_append_cons_self, feedLines, feedLines]

theorem feedLines_of_not_mem {s : String} (unbroken : '\n' ∉ s.toList) :
    feedLines s = [s.toList] :=
  List.splitOn_eq_singleton unbroken

theorem feedLines_join {words : List String} (unbroken : ∀ word ∈ words, '\n' ∉ word.toList)
    (some_words : words ≠ []) : feedLines (join "\n" words) = words.map String.toList := by
  rw [feedLines, join, String.toList_intercalate]
  refine List.splitOn_intercalate '\n' ?_ (by simpa using some_words)
  intro line member
  obtain ⟨word, member, same⟩ := List.mem_map.mp member
  rw [← same]
  exact unbroken word member

/-- The first line of a text is begun by a text without line feeds that stands before it. -/
theorem feedLines_of_unbroken_append {start : String} (unbroken : '\n' ∉ start.toList)
    (text : String) :
    ∃ more, feedLines (start ++ text) = (start.toList ++ more) :: (feedLines text).tail := by
  rw [feedLines, String.toList_append, feedLines]
  generalize start.toList = cs at unbroken
  induction cs with
  | nil =>
    obtain ⟨first, others, split⟩ := List.exists_cons_of_ne_nil (List.splitOn_ne_nil '\n' text.toList)
    exact ⟨first, by rw [List.nil_append, List.nil_append, split, List.tail_cons]⟩
  | cons c cs ih =>
    rw [List.mem_cons, not_or] at unbroken
    obtain ⟨more, rows⟩ := ih unbroken.2
    refine ⟨more, ?_⟩
    rw [List.cons_append, List.splitOn_cons_eq_if_modifyHead, if_neg (by simpa using Ne.symm unbroken.1),
      rows,
      List.modifyHead_cons, List.cons_append]

/-- A text with a line feed can be cut at the last one. -/
theorem exists_last_line {s : String} (broken : '\n' ∈ s.toList) :
    ∃ before last : String, s = before ++ "\n" ++ last ∧ '\n' ∉ last.toList := by
  obtain ⟨last, before, split, unbroken⟩ :=
    List.eq_append_cons_of_mem (List.mem_reverse.mpr broken)
  refine ⟨String.ofList before.reverse, String.ofList last.reverse, ?_, by simpa using unbroken⟩
  have chars := congrArg List.reverse split
  rw [List.reverse_reverse] at chars
  rw [← String.toList_inj, chars]
  simp

/-- A text of two lines or more has a line feed. -/
theorem ofFeedLines_ne_empty {lines : List (List Char)} (several : 2 ≤ lines.length) :
    ofFeedLines lines ≠ "" := by
  match lines, several with
  | first :: second :: lines, _ =>
    rw [ofFeedLines, ne_eq, String.ofList_eq_empty_iff, List.intercalate_cons_cons]
    simp

/-! ## Fences -/

/-- Whether the character may stand behind the backticks of a fence.  A carriage return there is the
beginning of the line end. -/
def trailsFence (c : Char) : Bool :=
  c == ' ' || c == '\t' || c == '\r'

/-- The number of backticks of a fence.  They are at least three, with no more than three spaces
before them and nothing but spaces and tabs behind them. -/
def fenceLength? (line : List Char) : Option Nat :=
  let mark := line.dropWhile (· == ' ')
  let ticks := mark.takeWhile (· == '\x60')
  let rest := mark.dropWhile (· == '\x60')
  if line.length ≤ mark.length + 3 ∧ 3 ≤ ticks.length ∧ rest.all trailsFence = true then
    some ticks.length
  else none

/-- Whether the line is a fence. -/
def isFence (line : List Char) : Bool :=
  (fenceLength? line).isSome

/-- Whether the line closes a block that a fence of so many backticks has opened. -/
def closes (length : Nat) (line : List Char) : Bool :=
  (fenceLength? line).any (length ≤ ·)

theorem three_le_fenceLength {line : List Char} {length : Nat}
    (fence : fenceLength? line = some length) : 3 ≤ length := by
  rw [fenceLength?, Option.ite_none_right_eq_some] at fence
  rw [← Option.some.inj fence.2]
  exact fence.1.2.1

/-- Every fence closes a block that a shortest fence has opened. -/
theorem closes_three (line : List Char) : closes 3 line = isFence line := by
  rw [closes, isFence]
  cases fence : fenceLength? line with
  | none => rfl
  | some length => simpa using three_le_fenceLength fence

theorem tick_or_trails_of_isFence {line : List Char} (fence : isFence line = true) :
    ∀ c ∈ line, c = '\x60' ∨ trailsFence c = true := by
  rw [isFence, fenceLength?, Option.isSome_ite] at fence
  intro c member
  rw [← @List.takeWhile_append_dropWhile _ (· == ' ') line, List.mem_append] at member
  rcases member with space | member
  · have same := List.all_eq_true.mp List.all_takeWhile c space
    rw [beq_iff_eq.mp same]
    exact Or.inr rfl
  · rw [← @List.takeWhile_append_dropWhile _ (· == '\x60') (line.dropWhile (· == ' ')),
      List.mem_append] at member
    rcases member with tick | rest
    · exact Or.inl (beq_iff_eq.mp (List.all_eq_true.mp List.all_takeWhile c tick))
    · exact Or.inr (List.all_eq_true.mp fence.2.2 c rest)

/-! ## Blocks -/

/-- A block of code, and the text behind the line that closes it. -/
structure CodeBlock where
  contents : String
  behind : String
  deriving DecidableEq

/-- The block of a fence of so many backticks, with the given lines after that fence. -/
def blockOf? (length : Nat) (lines : List (List Char)) : Option CodeBlock :=
  match lines.dropWhile (fun line => !closes length line) with
  | [] => none
  | _ :: behind =>
    some ⟨ofFeedLines (lines.takeWhile (fun line => !closes length line)), ofFeedLines behind⟩

/-- The block that the first fence among the lines opens. -/
def codeBlock? : List (List Char) → Option CodeBlock
  | [] => none
  | line :: lines =>
    match fenceLength? line with
    | none => codeBlock? lines
    | some length => blockOf? length lines

/-- The lines after the first one that is the heading. -/
def under (heading : String) (lines : List (List Char)) : List (List Char) :=
  (lines.dropWhile (· != heading.toList)).tail

/-- The first block of code under the first heading of this kind. -/
def codeBlockUnder? (heading text : String) : Option CodeBlock :=
  codeBlock? (under heading (feedLines text))

/-- Some fence stands among the lines after the heading. -/
def OpensUnder (heading : String) (lines : List (List Char)) : Prop :=
  ∃ line ∈ under heading lines, isFence line = true

variable {length : Nat} {fence : List Char} {lines before contents : List (List Char)}
  {heading : String}

theorem blockOf?_eq_some {behind : List (List Char)}
    (free : ∀ line ∈ contents, closes length line = false) (ends : closes length fence = true) :
    blockOf? length (contents ++ fence :: behind) =
      some ⟨ofFeedLines contents, ofFeedLines behind⟩ := by
  have passed : ∀ line ∈ contents, (!closes length line) = true := by simpa using free
  have stopped : (!closes length fence) = false := by simp [ends]
  rw [blockOf?, List.dropWhile_append_of_pos passed, List.takeWhile_append_of_pos passed,
    List.dropWhile_cons, List.takeWhile_cons, stopped]
  simp

/-- A block that leaves nothing behind is closed by the last line of the text. -/
theorem closes_of_blockOf? {block : CodeBlock}
    (read : blockOf? length (contents ++ [fence, []]) = some block) (whole : block.behind = "") :
    (∀ line ∈ contents, closes length line = false) ∧ closes length fence = true := by
  rw [blockOf?, List.dropWhile_append] at read
  cases found : contents.dropWhile (fun line => !closes length line) with
  | nil =>
    have free : ∀ line ∈ contents, closes length line = false := by
      simpa using List.dropWhile_eq_nil_iff.mp found
    refine ⟨free, ?_⟩
    cases ends : closes length fence with
    | true => rfl
    | false =>
      have never : closes length [] = false := rfl
      rw [found] at read
      simp [ends, never] at read
  | cons line rest =>
    rw [found] at read
    have left : ofFeedLines (rest ++ [fence, []]) = "" := by
      rw [← whole, ← Option.some.inj read]
      rfl
    exact absurd left (ofFeedLines_ne_empty (by simp))

/-! ## Under a heading -/

theorem under_of_eq {line : List Char} (same : line = heading.toList) :
    under heading (line :: lines) = lines := by
  simp [under, same]

theorem under_of_ne {line : List Char} (other : line ≠ heading.toList) :
    under heading (line :: lines) = under heading lines := by
  simp [under, other]

/-- Behind a heading the lines go on unchanged.  An earlier heading only adds the lines between. -/
theorem exists_under_append (plain : isFence heading.toList = false)
    (before lines : List (List Char)) :
    ∃ between, under heading (before ++ heading.toList :: lines) = between ++ lines ∧
      (OpensUnder heading before ↔ ∃ line ∈ between, isFence line = true) := by
  induction before with
  | nil => exact ⟨[], under_of_eq rfl, by simp [OpensUnder, under]⟩
  | cons line before ih =>
    by_cases same : line = heading.toList
    · refine ⟨before ++ [heading.toList], ?_, ?_⟩
      · rw [List.cons_append, under_of_eq same, List.append_assoc, List.singleton_append]
      · simp [OpensUnder, under_of_eq same, plain, or_and_right, exists_or]
    · obtain ⟨between, rows, opens⟩ := ih
      refine ⟨between, ?_, ?_⟩
      · rw [List.cons_append, under_of_ne same, rows]
      · rw [← opens, OpensUnder, OpensUnder, under_of_ne same]

theorem codeBlock?_append (free : ∀ line ∈ before, isFence line = false)
    (lines : List (List Char)) : codeBlock? (before ++ lines) = codeBlock? lines := by
  induction before with
  | nil => rfl
  | cons line before ih =>
    obtain ⟨other, others⟩ := List.forall_mem_cons.mp free
    rw [isFence, Option.isSome_eq_false_iff, Option.isNone_iff_eq_none] at other
    rw [List.cons_append, codeBlock?, other]
    exact ih others

/-- If one of the lines before opened a block, the fence between would close it, unless it takes
more backticks; then the same fence at the end does not close it either. -/
theorem free_of_codeBlock? {block : CodeBlock}
    (read : codeBlock? (before ++ fence :: (contents ++ [fence, []])) = some block)
    (whole : block.behind = "") : ∀ line ∈ before, isFence line = false := by
  induction before with
  | nil =>
    intro line member
    cases member
  | cons line before ih =>
    rw [List.cons_append, codeBlock?] at read
    cases opening : fenceLength? line with
    | none =>
      rw [opening] at read
      refine List.forall_mem_cons.mpr ⟨?_, ih read⟩
      rw [isFence, opening]
      rfl
    | some length =>
      rw [opening, ← List.cons_append, ← List.append_assoc] at read
      obtain ⟨free, ends⟩ := closes_of_blockOf? read whole
      have between := free fence (List.mem_append_right _ List.mem_cons_self)
      rw [between] at ends
      cases ends

/-- When no block is opened before, the fence under the heading opens the block. -/
theorem codeBlockUnder?_eq_blockOf? {text : String} {rest : List (List Char)}
    (fenced : fenceLength? fence = some length) (plain : isFence heading.toList = false)
    (rows : feedLines text = before ++ heading.toList :: fence :: rest)
    (early : ¬OpensUnder heading before) :
    codeBlockUnder? heading text = blockOf? length rest := by
  obtain ⟨between, found, opens⟩ := exists_under_append plain before (fence :: rest)
  have free : ∀ line ∈ between, isFence line = false := by simpa [opens] using early
  rw [codeBlockUnder?, rows, found, codeBlock?_append free, codeBlock?, fenced]

theorem not_opensUnder_of_codeBlockUnder? {text : String} {block : CodeBlock}
    (plain : isFence heading.toList = false)
    (rows : feedLines text = before ++ heading.toList :: fence :: (contents ++ [fence, []]))
    (read : codeBlockUnder? heading text = some block) (whole : block.behind = "") :
    ¬OpensUnder heading before := by
  obtain ⟨between, found, opens⟩ :=
    exists_under_append plain before (fence :: (contents ++ [fence, []]))
  rw [codeBlockUnder?, rows, found] at read
  rw [opens]
  rintro ⟨line, member, early⟩
  rw [free_of_codeBlock? read whole line member] at early
  cases early

/-- What stands between the two fences is read back exactly when none of it closes the block and no
block has been opened before. -/
theorem codeBlockUnder?_eq_iff {text : String} (fenced : fenceLength? fence = some length)
    (plain : isFence heading.toList = false)
    (rows : feedLines text = before ++ heading.toList :: fence :: (contents ++ [fence, []])) :
    codeBlockUnder? heading text = some ⟨ofFeedLines contents, ""⟩ ↔
      (∀ line ∈ contents, closes length line = false) ∧ ¬OpensUnder heading before := by
  have ends : closes length fence = true := by simp [closes, fenced]
  constructor
  · intro read
    have early := not_opensUnder_of_codeBlockUnder? plain rows read rfl
    rw [codeBlockUnder?_eq_blockOf? fenced plain rows early] at read
    exact ⟨(closes_of_blockOf? read rfl).1, early⟩
  · rintro ⟨inside, early⟩
    rw [codeBlockUnder?_eq_blockOf? fenced plain rows early, blockOf?_eq_some inside ends]
    rfl

end Text
end CodeAssistant
