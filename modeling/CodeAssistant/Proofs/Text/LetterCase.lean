import CodeAssistant.Proofs.Text.SignificantLines
import CodeAssistant.Text.Lower

namespace CodeAssistant
namespace Text

/-!
# Capital and small ASCII letters

`Char.toLower` changes the twenty-six ASCII capitals and no other character, and none of the
properties of characters in use here tells a capital from its small letter.  Texts may therefore be
put into small letters before they are cut into lines (`significantLines_inSmallLetters`).

Lower-casing looks at the neighbours of a capital sigma.  An ASCII letter among them is a cased
letter in either form, so putting a text into small letters first does not change its lower case
(`lowerChars_map_toLower`).
-/

/-! ## Characters -/

/-- The ASCII capitals. -/
def capitals : List Char :=
  "ABCDEFGHIJKLMNOPQRSTUVWXYZ".toList

theorem ofNat_mem_capitals : ∀ n < 0x5B, 0x41 ≤ n → Char.ofNat n ∈ capitals := by
  decide

theorem toLower_eq_or_mem_capitals (c : Char) : c.toLower = c ∨ c ∈ capitals := by
  unfold Char.toLower
  split
  · next capital =>
    have least : 0x41 ≤ c.toNat := UInt32.le_iff_toNat_le.mp capital.1
    have greatest : c.toNat ≤ 0x5A := UInt32.le_iff_toNat_le.mp capital.2
    have member := ofNat_mem_capitals c.toNat (by omega) least
    rw [Char.ofNat_toNat] at member
    exact Or.inr member
  · exact Or.inl rfl

/-- A property of the capitals is checked for each of them. -/
theorem forall_capitals {p : Char → Prop} [DecidablePred p]
    (checked : capitals.all (fun c => decide (p c)) = true) : ∀ c ∈ capitals, p c := by
  intro c member
  exact of_decide_eq_true (List.all_eq_true.mp checked c member)

/-- What does not tell a capital from its small letter cannot see `Char.toLower`. -/
theorem apply_toLower {β : Type} {f : Char → β} (alike : ∀ c ∈ capitals, f c.toLower = f c)
    (c : Char) : f c.toLower = f c := by
  rcases toLower_eq_or_mem_capitals c with same | capital
  · rw [same]
  · exact alike c capital

theorem isBlank_toLower (c : Char) : isBlank c.toLower = isBlank c :=
  apply_toLower (forall_capitals (by decide)) c

theorem isLineBreak_toLower (c : Char) : isLineBreak c.toLower = isLineBreak c :=
  apply_toLower (forall_capitals (by decide)) c

theorem isCased_toLower (c : Char) : isCased c.toLower = isCased c :=
  apply_toLower (forall_capitals (by decide +kernel)) c

theorem caseIgnorableRanges_apart : ∀ r ∈ caseIgnorableRanges,
    r.last < 0x41 ∨ (0x5A < r.first ∧ r.last < 0x61) ∨ 0x7A < r.first := by
  decide +kernel

theorem isCaseIgnorable_eq_false {c : Char}
    (letter : (0x41 ≤ c.toNat ∧ c.toNat ≤ 0x5A) ∨ (0x61 ≤ c.toNat ∧ c.toNat ≤ 0x7A)) :
    isCaseIgnorable c = false := by
  rw [isCaseIgnorable, Bool.eq_false_iff, ne_eq, CodeRange.anyContains_iff]
  rintro ⟨r, member, first, last⟩
  have apart := caseIgnorableRanges_apart r member
  omega

theorem isCaseIgnorable_toLower (c : Char) : isCaseIgnorable c.toLower = isCaseIgnorable c := by
  apply apply_toLower
  intro capital member
  have letters : ∀ c ∈ capitals, (0x41 ≤ c.toNat ∧ c.toNat ≤ 0x5A) ∧
      0x61 ≤ c.toLower.toNat ∧ c.toLower.toNat ≤ 0x7A := forall_capitals (by decide)
  have letter := letters capital member
  rw [isCaseIgnorable_eq_false (Or.inl letter.1), isCaseIgnorable_eq_false (Or.inr letter.2)]

theorem lowerChar_toLower (c : Char) : lowerChar c.toLower = lowerChar c :=
  apply_toLower (forall_capitals (by decide +kernel)) c

theorem toLower_eq_sigma_iff (c : Char) : c.toLower = 'Σ' ↔ c = 'Σ' := by
  have same : decide (c.toLower = 'Σ') = decide (c = 'Σ') :=
    apply_toLower (f := fun c => decide (c = 'Σ')) (forall_capitals (by decide)) c
  rwa [decide_eq_decide] at same

/-! ## Lower case -/

theorem startsCased_map_toLower (cs : List Char) :
    startsCased (cs.map Char.toLower) = startsCased cs := by
  have ignorable : isCaseIgnorable ∘ Char.toLower = isCaseIgnorable := by
    funext c
    exact isCaseIgnorable_toLower c
  rw [startsCased, startsCased, List.dropWhile_map, ignorable]
  cases cs.dropWhile isCaseIgnorable with
  | nil => rfl
  | cons c rest => exact isCased_toLower c

theorem lowerBetween_toLower (before : List Char) (c : Char) (after : List Char) :
    lowerBetween (before.map Char.toLower) c.toLower (after.map Char.toLower) =
      lowerBetween before c after := by
  unfold lowerBetween
  rw [startsCased_map_toLower, startsCased_map_toLower, lowerChar_toLower]
  simp only [toLower_eq_sigma_iff]

theorem lowerAfter_map_toLower (before cs : List Char) :
    lowerAfter (before.map Char.toLower) (cs.map Char.toLower) = lowerAfter before cs := by
  induction cs generalizing before with
  | nil => rfl
  | cons c rest ih =>
    rw [List.map_cons, lowerAfter, lowerBetween_toLower, ← List.map_cons, ih, lowerAfter]

/-- The lower case of a text does not depend on the case of its ASCII letters. -/
theorem lowerChars_map_toLower (cs : List Char) :
    lowerChars (cs.map Char.toLower) = lowerChars cs :=
  lowerAfter_map_toLower [] cs

/-! ## Lines -/

section
variable {f : Char → Char} (blank : ∀ c, isBlank (f c) = isBlank c)
include blank

theorem trimStart_map (cs : List Char) : trimStart (cs.map f) = (trimStart cs).map f := by
  have same : isBlank ∘ f = isBlank := funext blank
  rw [trimStart, List.dropWhile_map, same, trimStart]

theorem trimChars_map (cs : List Char) : trimChars (cs.map f) = (trimChars cs).map f := by
  rw [trimChars, trimEnd, trimStart_map blank, ← List.map_reverse, trimStart_map blank,
    ← List.map_reverse, trimChars, trimEnd]

theorem lineContents_map (line : List Char) :
    lineContents (line.map f) = (lineContents line).map (List.map f) := by
  rw [lineContents, trimChars_map blank, lineContents]
  cases trimChars line <;> rfl

variable (ends : ∀ c, isLineBreak (f c) = isLineBreak c)
include ends

theorem significantFrom_map (line cs : List Char) :
    significantFrom (line.map f) (cs.map f) = (significantFrom line cs).map (List.map f) := by
  induction cs generalizing line with
  | nil =>
    rw [List.map_nil, significantFrom_nil, ← List.map_reverse, lineContents_map blank,
      significantFrom_nil]
  | cons c cs ih =>
    rw [List.map_cons]
    cases other : isLineBreak c with
    | true =>
      have rest : significantChars (cs.map f) = (significantChars cs).map (List.map f) := ih []
      have still : isLineBreak (f c) = true := (ends c).trans other
      rw [significantFrom_of_break still, significantFrom_of_break other, ← List.map_reverse,
        lineContents_map blank, rest, List.map_append]
    | false =>
      have still : isLineBreak (f c) = false := (ends c).trans other
      rw [significantFrom_of_not_break still, significantFrom_of_not_break other, ← List.map_cons,
        ih]

/-- A change of characters that keeps blanks and breaks apart from the others is a change of the
significant lines. -/
theorem significantChars_map (cs : List Char) :
    significantChars (cs.map f) = (significantChars cs).map (List.map f) :=
  significantFrom_map blank ends [] cs

end

/-- The text with small letters for the ASCII capitals. -/
def inSmallLetters (s : String) : String :=
  String.ofList (s.toList.map Char.toLower)

@[simp]
theorem toList_inSmallLetters (s : String) :
    (inSmallLetters s).toList = s.toList.map Char.toLower :=
  String.toList_ofList

theorem inSmallLetters_ofList (cs : List Char) :
    inSmallLetters (String.ofList cs) = String.ofList (cs.map Char.toLower) := by
  rw [inSmallLetters, String.toList_ofList]

theorem significantLines_inSmallLetters (s : String) :
    significantLines (inSmallLetters s) = (significantLines s).map inSmallLetters := by
  rw [significantLines, toList_inSmallLetters,
    significantChars_map isBlank_toLower isLineBreak_toLower, significantLines, List.map_map,
    List.map_map]
  apply List.map_congr_left
  intro line member
  exact (inSmallLetters_ofList line).symm

/-- The texts differ in the case of ASCII letters at most. -/
def EqualUpToCase (first second : String) : Prop :=
  first.toList.map Char.toLower = second.toList.map Char.toLower

instance (first second : String) : Decidable (EqualUpToCase first second) :=
  inferInstanceAs (Decidable (first.toList.map Char.toLower = second.toList.map Char.toLower))

theorem EqualUpToCase.inSmallLetters_eq {first second : String}
    (same : EqualUpToCase first second) : inSmallLetters first = inSmallLetters second :=
  congrArg String.ofList same

end Text
end CodeAssistant
