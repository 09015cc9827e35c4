import CodeAssistant.Proofs.Generation.NameBases

namespace CodeAssistant

/-!
# Names of documents

The name of a document is made of a project name that anybody may choose, so it matters which
characters can come through.  The part for the project consists of characters that are meant to be
there, except that a combining dot may be left of an `İ` (`filenameBase_sanitized`), and the stamp
consists of digits and signs.  None of these leads out of a directory.  A single dot, the one before
`md`, is in the name.
-/

open Text

/-- A character that may come before the extension. -/
def IsNameChar (c : Char) : Prop :=
  IsBaseChar c ∨ c ∈ ['\u0307', '+', '-']

/-- The name of an entry of a directory, and one that has the extension of a document. -/
structure IsDocumentName (name : String) : Prop where
  slash : '/' ∉ name.toList
  backslash : '\\' ∉ name.toList
  nul : '\x00' ∉ name.toList
  notHere : name ≠ "."
  notUp : name ≠ ".."
  extension : ".md".toList <:+ name.toList

/-! ## Characters -/

theorem isAlphanumeric_separators :
    isAlphanumeric '/' = false ∧ isAlphanumeric '\\' = false ∧ isAlphanumeric '\x00' = false := by
  decide +kernel

theorem isNameChar_of_isDigit {c : Char} (digit : c.isDigit = true) : IsNameChar c := by
  rw [Char.isDigit, Bool.and_eq_true, decide_eq_true_eq, decide_eq_true_eq] at digit
  have range : 0x30 ≤ c.toNat ∧ c.toNat ≤ 0x39 := digit
  have digits : ⟨0x30, 0x39⟩ ∈ alphanumericRanges := List.mem_cons_self
  exact Or.inl (Or.inl (CodeRange.anyContains_iff.mpr ⟨_, digits, range⟩))

theorem isNameChar_of_mem_stampSigns {c : Char} (sign : c ∈ Instant.stampSigns) :
    IsNameChar c := by
  simp only [Instant.stampSigns, List.mem_cons, List.not_mem_nil, or_false] at sign
  rcases sign with rfl | rfl | rfl
  · exact Or.inl (Or.inr rfl)
  · exact Or.inr (by decide)
  · exact Or.inr (by decide)

/-! ## Names -/

/-- All characters of the text may come before the extension. -/
def IsNameText (s : String) : Prop :=
  ∀ c ∈ s.toList, IsNameChar c

theorem IsNameText.append {s t : String} (first : IsNameText s) (rest : IsNameText t) :
    IsNameText (s ++ t) := by
  intro c member
  rw [String.toList_append, List.mem_append] at member
  rcases member with left | right
  · exact first c left
  · exact rest c right

theorem isNameText_filenameBase (projectName : String) : IsNameText (filenameBase projectName) := by
  intro c member
  rcases (filenameBase_sanitized projectName).2.2 c member with base | dot
  · exact Or.inl base
  · exact Or.inr (dot ▸ List.mem_cons_self)

theorem isNameText_stamp (now : Instant) : IsNameText now.stamp := by
  intro c member
  rcases Instant.isDigit_or_sign_of_mem_stamp member with digit | sign
  · exact isNameChar_of_isDigit digit
  · exact isNameChar_of_mem_stampSigns sign

theorem isNameText_mark : IsNameText "_documentation_" := by
  have letters : ("_documentation_".toList.all fun c => c == '_' || isAlphanumeric c) = true := by
    decide
  intro c member
  have base := List.all_eq_true.mp letters c member
  rw [Bool.or_eq_true, beq_iff_eq, or_comm] at base
  exact Or.inl base

/-- Names of this kind are no more than names, wherever their characters come from. -/
theorem isDocumentName_of_stem {stem : String} (harmless : IsNameText stem) (some : stem ≠ "") :
    IsDocumentName (stem ++ ".md") := by
  have lacks {c : Char} (separator : isAlphanumeric c = false)
      (foreign : c ∉ '_' :: ['\u0307', '+', '-']) (other : c ∉ ".md".toList) :
      c ∉ (stem ++ ".md").toList := by
    rw [List.mem_cons, not_or] at foreign
    rw [String.toList_append, List.mem_append]
    rintro (inStem | inExtension)
    · rcases harmless c inStem with (alphanumeric | underscore) | sign
      · exact Bool.false_ne_true (separator.symm.trans alphanumeric)
      · exact foreign.1 underscore
      · exact foreign.2 sign
    · exact other inExtension
  have long {name : String} (short : name.toList.length ≤ 3) : stem ++ ".md" ≠ name := by
    rintro rfl
    rw [String.toList_append, List.length_append] at short
    have positive : 0 < stem.toList.length :=
      List.length_pos_iff.mpr (some ∘ String.toList_eq_nil_iff.mp)
    have three : ".md".toList.length = 3 := rfl
    omega
  obtain ⟨slash, backslash, nul⟩ := isAlphanumeric_separators
  exact {
    slash := lacks slash (by decide) (by decide)
    backslash := lacks backslash (by decide) (by decide)
    nul := lacks nul (by decide) (by decide)
    notHere := long (by decide)
    notUp := long (by decide)
    extension := ⟨stem.toList, String.toList_append.symm⟩ }

/-- The suggested name is a name and nothing more, for every project. -/
theorem isDocumentName_documentFilename (projectName : String) (now : Instant) :
    IsDocumentName (documentFilename projectName now) := by
  have harmless : IsNameText (filenameBase projectName ++ "_documentation_" ++ now.stamp) :=
    ((isNameText_filenameBase projectName).append isNameText_mark).append (isNameText_stamp now)
  apply isDocumentName_of_stem harmless
  intro empty
  rw [← String.toList_eq_nil_iff, String.toList_append, String.toList_append,
    List.append_eq_nil_iff, List.append_eq_nil_iff] at empty
  cases empty.1.2

end CodeAssistant
