import CodeAssistant.Generation.Document
import CodeAssistant.Proofs.Calendar.Stamps
import CodeAssistant.Proofs.Text.Separation
import CodeAssistant.Proofs.Text.SmallLetters

namespace CodeAssistant

/-!
# Project and time in the names of documents

The name of a document can be taken apart.  What stands before the last `_documentation_` is the
part for the project (`cutLast?_documentFilename`), and what stands behind it is the stamp.  So two
documents have the same name exactly when both parts are the same, and the names of the documents on
one project come in the order of time (`documentFilename_eq_iff_and_lt`).

The part for the project is meant to be made of alphanumeric characters and underscores, and to
stand for itself when it is taken for the name of a project.  Both are so exactly when there is no
`İ` in the name, whose lower case has a combining dot in it (`documentFilename_sanitized_iff`).
-/

/-! ## The last occurrence of a word -/

namespace Text

/-- The text before the last occurrence of a word. -/
def beforeLast? (word : List Char) : List Char → Option (List Char)
  | [] => if word.isEmpty then some [] else none
  | c :: rest =>
    match beforeLast? word rest with
    | some before => some (c :: before)
    | none => if word.isPrefixOf (c :: rest) then some [] else none

theorem beforeLast?_eq_none_iff {word text : List Char} :
    beforeLast? word text = none ↔ ¬word <:+: text := by
  induction text with
  | nil => simp [beforeLast?]
  | cons c rest ih =>
    rw [beforeLast?, List.infix_cons_iff, not_or, ← ih, ← List.isPrefixOf_iff_prefix]
    cases found : beforeLast? word rest with
    | none => simp
    | some before => simp

/-- An occurrence is the last one when none begins behind its beginning. -/
theorem beforeLast?_append {word : List Char} (some_word : word ≠ []) {behind : List Char}
    (last : ¬word <:+: (word ++ behind).tail) (before : List Char) :
    beforeLast? word (before ++ (word ++ behind)) = some before := by
  induction before with
  | nil =>
    obtain ⟨c, rest, rfl⟩ := List.exists_cons_of_ne_nil some_word
    rw [List.cons_append, List.tail_cons, ← beforeLast?_eq_none_iff] at last
    have here : (c :: rest).isPrefixOf (c :: (rest ++ behind)) = true :=
      List.isPrefixOf_iff_prefix.mpr (List.prefix_append (c :: rest) behind)
    rw [List.nil_append, List.cons_append, beforeLast?, last]
    simp only [here, if_true]
  | cons c before ih => rw [List.cons_append, beforeLast?, ih]

/-- The text before the last occurrence of a word. -/
def cutLast? (word text : String) : Option String :=
  (beforeLast? word.toList text.toList).map String.ofList

end Text

open Text

theorem stamp_lacks_u (now : Instant) : 'u' ∉ now.stamp.toList := by
  intro member
  rcases Instant.isDigit_or_sign_of_mem_stamp member with digit | sign
  · exact absurd digit (by decide)
  · exact absurd sign (by decide)

/-- The mark does not occur once more behind its beginning, because there is only one `u` there. -/
theorem mark_last {behind : List Char} (lacks : 'u' ∉ behind) :
    ¬"_documentation_".toList <:+: ("_documentation_".toList ++ behind).tail := by
  have mark : "_documentation_".toList = "_doc".toList ++ 'u' :: "mentation_".toList := by decide
  have tail : ("_documentation_".toList ++ behind).tail =
      "doc".toList ++ 'u' :: ("mentation_".toList ++ behind) := by
    rw [mark]
    rfl
  rw [tail, mark]
  rintro ⟨before, after, same⟩
  have counts := congrArg (List.count 'u') same
  have free : 'u' ∉ before := by
    have start : List.count 'u' "_doc".toList = 0 := by decide
    have otherStart : List.count 'u' "doc".toList = 0 := by decide
    have rest : List.count 'u' "mentation_".toList = 0 := by decide
    simp only [List.count_append, List.count_cons_self, start, otherStart, rest,
      List.count_eq_zero.mpr lacks] at counts
    rw [← List.count_eq_zero]
    omega
  have lacksBefore : 'u' ∉ before ++ "_doc".toList := by
    rw [List.mem_append, not_or]
    exact ⟨free, by decide⟩
  rw [List.append_assoc, List.append_assoc, List.cons_append, ← List.append_assoc] at same
  have cut : before ++ "_doc".toList = "doc".toList :=
    append_cons_inj_of_lacks lacksBefore (by decide) same
  have lengths := congrArg List.length cut
  rw [List.length_append] at lengths
  have four : "_doc".toList.length = 4 := rfl
  have three : "doc".toList.length = 3 := rfl
  omega

/-- The part for the project can be cut off a name. -/
theorem cutLast?_documentFilename (projectName : String) (now : Instant) :
    cutLast? "_documentation_" (documentFilename projectName now) =
      some (filenameBase projectName) := by
  have lacks : 'u' ∉ (now.stamp ++ ".md").toList := by
    rw [String.toList_append, List.mem_append, not_or]
    exact ⟨stamp_lacks_u now, by decide⟩
  rw [cutLast?, documentFilename, String.append_assoc, String.append_assoc, String.toList_append,
    String.toList_append, beforeLast?_append (by decide) (mark_last lacks), Option.map_some,
    String.ofList_toList]

/-! ## The part for the project -/

/-- A character that may stand in the part for the project. -/
def IsBaseChar (c : Char) : Prop :=
  isAlphanumeric c = true ∨ c = '_'

/-- The underscore and the combining dot are not alphanumeric. -/
theorem isAlphanumeric_signs :
    isAlphanumeric '_' = false ∧ isAlphanumeric '\u0307' = false := by
  decide +kernel

theorem not_isBaseChar_combiningDot : ¬IsBaseChar '\u0307' := by
  rintro (alphanumeric | underscore)
  · rw [isAlphanumeric_signs.2] at alphanumeric
    cases alphanumeric
  · exact absurd underscore (by decide)

theorem filenameChars_of_not_alphanumeric {c : Char} (other : isAlphanumeric c = false) :
    filenameChars c = ['_'] := by
  rw [filenameChars, other, if_neg Bool.false_ne_true]

theorem filenameChars_dotted : filenameChars 'İ' = ['i', '\u0307'] := by
  decide

/-- The part for a project without a name stands for itself. -/
theorem filenameChars_default : ∀ c ∈ "atum_project".toList, filenameChars c = [c] := by
  have letters : ("atum_project".toList.all fun c =>
      c == '_' || decide (filenameChars c = [c])) = true := by decide
  intro c member
  have kept := List.all_eq_true.mp letters c member
  rw [Bool.or_eq_true, beq_iff_eq, decide_eq_true_eq] at kept
  rcases kept with rfl | letter
  · exact filenameChars_of_not_alphanumeric isAlphanumeric_signs.1
  · exact letter

/-- Any other character is rendered by one that may stand there and is rendered by itself. -/
theorem exists_filenameChars_eq {c : Char} (plain : c ≠ 'İ') :
    ∃ d, filenameChars c = [d] ∧ filenameChars d = [d] ∧ IsBaseChar d := by
  rw [filenameChars]
  by_cases alphanumeric : isAlphanumeric c = true
  · obtain ⟨d, lower, small⟩ := exists_lowerChar_eq alphanumeric plain
    rw [if_pos alphanumeric, lower]
    refine ⟨d, rfl, ?_, Or.inl small.alphanumeric⟩
    rw [filenameChars, if_pos small.alphanumeric, small.lower]
  · rw [if_neg alphanumeric]
    exact ⟨'_', rfl, filenameChars_of_not_alphanumeric isAlphanumeric_signs.1, Or.inr rfl⟩

section
variable {cs : List Char} {x : Char}

/-- A character of the part for a project may stand there, or it is the dot that comes from `İ`. -/
theorem dotted_or_isBaseChar (member : x ∈ cs.flatMap filenameChars) :
    (x = '\u0307' ∧ 'İ' ∈ cs) ∨ (filenameChars x = [x] ∧ IsBaseChar x) := by
  obtain ⟨c, inName, rendered⟩ := List.mem_flatMap.mp member
  by_cases dotted : c = 'İ'
  · rw [dotted, filenameChars_dotted, List.mem_cons, List.mem_singleton] at rendered
    rcases rendered with rfl | rfl
    · exact Or.inr ⟨by decide, Or.inl (by decide)⟩
    · exact Or.inl ⟨rfl, dotted ▸ inName⟩
  · obtain ⟨d, only, kept, base⟩ := exists_filenameChars_eq dotted
    rw [only, List.mem_singleton] at rendered
    rw [rendered]
    exact Or.inr ⟨kept, base⟩

theorem combiningDot_mem_iff : '\u0307' ∈ cs.flatMap filenameChars ↔ 'İ' ∈ cs := by
  constructor
  · intro member
    rcases dotted_or_isBaseChar member with ⟨-, dotted⟩ | ⟨-, base⟩
    · exact dotted
    · exact absurd base not_isBaseChar_combiningDot
  · intro dotted
    refine List.mem_flatMap.mpr ⟨'İ', dotted, ?_⟩
    rw [filenameChars_dotted]
    decide

theorem dotted_not_mem : 'İ' ∉ cs.flatMap filenameChars := by
  intro member
  rcases dotted_or_isBaseChar member with ⟨other, -⟩ | ⟨kept, -⟩
  · exact absurd other (by decide)
  · rw [filenameChars_dotted] at kept
    cases kept

theorem forall_isBaseChar_iff : (∀ x ∈ cs.flatMap filenameChars, IsBaseChar x) ↔ 'İ' ∉ cs := by
  constructor
  · intro base dotted
    exact not_isBaseChar_combiningDot (base _ (combiningDot_mem_iff.mpr dotted))
  · intro plain x member
    rcases dotted_or_isBaseChar member with ⟨-, dotted⟩ | ⟨-, base⟩
    · exact absurd dotted plain
    · exact base

theorem flatMap_filenameChars_eq (kept : ∀ x ∈ cs, filenameChars x = [x]) :
    cs.flatMap filenameChars = cs := by
  rw [List.flatMap_def, List.map_congr_left kept, ← List.flatMap_def, List.flatMap_singleton']

/-- Rendering twice is rendering once, unless there is an `İ`: the first time brings a combining
dot, which the second time makes an underscore. -/
theorem flatMap_filenameChars_idem_iff :
    (cs.flatMap filenameChars).flatMap filenameChars = cs.flatMap filenameChars ↔ 'İ' ∉ cs := by
  constructor
  · intro same dotted
    have member := combiningDot_mem_iff.mpr dotted
    rw [← same, combiningDot_mem_iff] at member
    exact dotted_not_mem member
  · intro plain
    refine flatMap_filenameChars_eq fun x member => ?_
    rcases dotted_or_isBaseChar member with ⟨-, dotted⟩ | ⟨kept, -⟩
    · exact absurd dotted plain
    · exact kept

theorem flatMap_filenameChars_ne_nil (named : cs ≠ []) : cs.flatMap filenameChars ≠ [] := by
  obtain ⟨c, rest, rfl⟩ := List.exists_cons_of_ne_nil named
  have rendered : filenameChars c ≠ [] := by
    by_cases dotted : c = 'İ'
    · rw [dotted, filenameChars_dotted]
      exact List.cons_ne_nil _ _
    · obtain ⟨d, only, -⟩ := exists_filenameChars_eq dotted
      rw [only]
      exact List.cons_ne_nil _ _
  rw [List.flatMap_cons]
  exact List.append_ne_nil_of_left_ne_nil rendered _

end

theorem toList_filenameBase {projectName : String} (named : projectName ≠ "") :
    (filenameBase projectName).toList = projectName.toList.flatMap filenameChars := by
  rw [filenameBase, if_neg named, String.toList_ofList]

/-- A project without a name has the part that a project with the default name has. -/
theorem exists_named (projectName : String) :
    ∃ name, name ≠ "" ∧ filenameBase projectName = filenameBase name ∧
      ('İ' ∈ projectName.toList ↔ 'İ' ∈ name.toList) := by
  by_cases unnamed : projectName = ""
  · have kept : "atum_project".toList.flatMap filenameChars = "atum_project".toList :=
      flatMap_filenameChars_eq filenameChars_default
    have default : filenameBase "" = filenameBase "atum_project" := by
      rw [filenameBase, if_pos rfl, filenameBase, if_neg (by decide), kept, String.ofList_toList]
    rw [unnamed, default]
    exact ⟨"atum_project", by decide, rfl, iff_of_false (by decide) (by decide)⟩
  · exact ⟨projectName, unnamed, rfl, Iff.rfl⟩

theorem filenameBase_sanitized (projectName : String) :
    ((∀ c ∈ (filenameBase projectName).toList, IsBaseChar c) ↔ 'İ' ∉ projectName.toList) ∧
      (filenameBase (filenameBase projectName) = filenameBase projectName ↔
        'İ' ∉ projectName.toList) ∧
      ∀ c ∈ (filenameBase projectName).toList, IsBaseChar c ∨ c = '\u0307' := by
  obtain ⟨name, named, same, letters⟩ := exists_named projectName
  have base := toList_filenameBase named
  have filled : filenameBase name ≠ "" := by
    rw [ne_eq, ← String.toList_eq_nil_iff, base]
    exact flatMap_filenameChars_ne_nil (named ∘ String.toList_eq_nil_iff.mp)
  rw [same, letters, ← String.toList_inj, toList_filenameBase filled, base]
  refine ⟨forall_isBaseChar_iff, flatMap_filenameChars_idem_iff, fun c member => ?_⟩
  rcases dotted_or_isBaseChar member with ⟨dot, -⟩ | ⟨-, allowed⟩
  · exact Or.inr dot
  · exact Or.inl allowed

/-- The part for the project in the name of a document is sanitised, and a project of that name has
the same one, exactly when there is no `İ` in the name of the project.  Otherwise there are
combining dots in it and nothing else is wrong. -/
theorem documentFilename_sanitized_iff (projectName : String) (now : Instant) :
    ∃ base, cutLast? "_documentation_" (documentFilename projectName now) = some base ∧
      ((∀ c ∈ base.toList, isAlphanumeric c = true ∨ c = '_') ↔ 'İ' ∉ projectName.toList) ∧
      (documentFilename base now = documentFilename projectName now ↔ 'İ' ∉ projectName.toList) ∧
      ∀ c ∈ base.toList, (isAlphanumeric c = true ∨ c = '_') ∨ c = '\u0307' := by
  obtain ⟨clean, kept, rest⟩ := filenameBase_sanitized projectName
  refine ⟨_, cutLast?_documentFilename projectName now, clean, ?_, rest⟩
  rw [← kept, documentFilename, documentFilename, String.append_left_inj, String.append_left_inj,
    String.append_left_inj]

/-- The dot of `İ` gets through, and a second time it does not. -/
theorem documentFilename_dotted :
    cutLast? "_documentation_" (documentFilename "İ" .epoch) = some "i\u0307" ∧
      isAlphanumeric '\u0307' = false ∧
      documentFilename "i\u0307" .epoch = "i__documentation_19700101_000000.md" ∧
      documentFilename "i\u0307" .epoch ≠ documentFilename "İ" .epoch := by
  have dotted : filenameBase "İ" = "i\u0307" := by decide
  have again : filenameBase "i\u0307" = "i_" := by
    have name : "i\u0307".toList = ['i', '\u0307'] := by decide
    have letter : filenameChars 'i' = ['i'] := by decide
    rw [filenameBase, if_neg (by decide), name, List.flatMap_cons, List.flatMap_cons, letter,
      filenameChars_of_not_alphanumeric isAlphanumeric_signs.2]
    decide
  have stamp : Instant.epoch.stamp = "19700101_000000" := by decide
  refine ⟨?_, isAlphanumeric_signs.2, ?_, ?_⟩
  · rw [cutLast?_documentFilename, dotted]
  · rw [documentFilename, again, stamp]
    decide
  · rw [documentFilename, documentFilename, again, dotted, stamp]
    decide

/-! ## Names in order -/

/-- The name of a document tells what it shows of the project, and the second.  The names of
documents on one project come in the order of time. -/
theorem documentFilename_eq_iff_and_lt {first second : Instant} (firstUsual : first.HasUsualYear)
    (secondUsual : second.HasUsualYear) :
    (∀ project other : String,
      documentFilename project first = documentFilename other second ↔
        filenameBase project = filenameBase other ∧ first.SameSecond second) ∧
    ∀ project : String, first.Before second → ¬first.SameSecond second →
      documentFilename project first < documentFilename project second := by
  constructor
  · intro project other
    rw [← Instant.stamp_eq_stamp_iff firstUsual secondUsual]
    constructor
    · intro same
      have bases := congrArg (cutLast? "_documentation_") same
      rw [cutLast?_documentFilename, cutLast?_documentFilename, Option.some.injEq] at bases
      rw [documentFilename, documentFilename, bases, String.append_left_inj,
        String.append_right_inj] at same
      exact ⟨bases, same⟩
    · rintro ⟨bases, stamps⟩
      rw [documentFilename, documentFilename, bases, stamps]
  · intro project before other
    have stamps := Instant.precedes_stamp firstUsual secondUsual before other
    exact ((stamps.append_left _).append _ _).lt

/-- The leap second at the end of the year 2016. -/
def endOf2016 : Instant :=
  ⟨1483228799, 1000000000, by decide, by decide⟩

/-- The second after it. -/
def startOf2017 : Instant :=
  ⟨1483228800, 0, by decide, by decide⟩

theorem documentFilename_around_leap_second :
    (endOf2016.HasUsualYear ∧ startOf2017.HasUsualYear) ∧
      (endOf2016.Before startOf2017 ∧ ¬endOf2016.SameSecond startOf2017) ∧
      documentFilename "Demo" endOf2016 < documentFilename "Demo" startOf2017 ∧
      documentFilename "Demo" endOf2016 ≠ documentFilename "demo" startOf2017 := by
  have firstUsual : endOf2016.HasUsualYear := by decide
  have secondUsual : startOf2017.HasUsualYear := by decide
  have before : endOf2016.Before startOf2017 := by decide
  have other : ¬endOf2016.SameSecond startOf2017 := by decide
  obtain ⟨identifies, orders⟩ := documentFilename_eq_iff_and_lt firstUsual secondUsual
  exact ⟨⟨firstUsual, secondUsual⟩, ⟨before, other⟩, orders "Demo" before other,
    fun same => other ((identifies "Demo" "demo").mp same).2⟩

end CodeAssistant
