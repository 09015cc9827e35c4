namespace CodeAssistant
namespace Text

/-!
# Blank characters and trimming

Input fields are compared and quoted without the blanks around them.  A character is blank when it
has the Unicode property White_Space.  The information separators U+001C to U+001F, the zero width
space and the byte order mark do not have it: they are contents, and trimming keeps them.

The main fact is that trimming leaves nothing exactly when there is nothing but blanks
(`trimChars_eq_nil_iff`), which is how a missing field is recognised.
-/

/-- Whether the character has the property White_Space. -/
def isBlank (c : Char) : Bool :=
  let n := c.toNat
  (0x9 ≤ n && n ≤ 0xD) || n == 0x20 || n == 0x85 || n == 0xA0 || n == 0x1680 ||
    (0x2000 ≤ n && n ≤ 0x200A) || n == 0x2028 || n == 0x2029 || n == 0x202F || n == 0x205F ||
    n == 0x3000

/-- The text without the blanks at its start. -/
def trimStart (cs : List Char) : List Char :=
  cs.dropWhile isBlank

/-- The text without the blanks at its end. -/
def trimEnd (cs : List Char) : List Char :=
  (trimStart cs.reverse).reverse

/-- The text without the blanks at either end.  Blanks between other characters stay. -/
def trimChars (cs : List Char) : List Char :=
  trimEnd (trimStart cs)

/-- The text without the blanks at either end. -/
def trim (s : String) : String :=
  String.ofList (trimChars s.toList)

@[simp]
theorem toList_trim (s : String) : (trim s).toList = trimChars s.toList :=
  String.toList_ofList

theorem trimStart_eq_nil_iff {cs : List Char} :
    trimStart cs = [] ↔ ∀ c ∈ cs, isBlank c = true := by
  induction cs with
  | nil => simp [trimStart]
  | cons c rest ih =>
    by_cases blank : isBlank c = true
    · rw [trimStart, List.dropWhile_cons_of_pos blank, ← trimStart, ih]
      simp [blank]
    · rw [trimStart, List.dropWhile_cons_of_neg blank]
      simp [blank]

theorem trimEnd_eq_nil_iff {cs : List Char} :
    trimEnd cs = [] ↔ ∀ c ∈ cs, isBlank c = true := by
  simp [trimEnd, trimStart_eq_nil_iff]

/-- Only a text of blanks is trimmed away. -/
theorem trimChars_eq_nil_iff {cs : List Char} :
    trimChars cs = [] ↔ ∀ c ∈ cs, isBlank c = true := by
  rw [trimChars, trimEnd_eq_nil_iff]
  constructor
  · intro h
    induction cs with
    | nil => simp
    | cons c rest ih =>
      by_cases blank : isBlank c = true
      · rw [trimStart, List.dropWhile_cons_of_pos blank] at h
        simpa [blank] using ih h
      · rw [trimStart, List.dropWhile_cons_of_neg blank] at h
        exact h
  · intro h c member
    exact h c ((List.dropWhile_sublist isBlank).subset member)

theorem trim_eq_empty_iff {s : String} :
    trim s = "" ↔ ∀ c ∈ s.toList, isBlank c = true := by
  rw [trim, String.ofList_eq_empty_iff, trimChars_eq_nil_iff]

/-- The trimmed text, if anything is left of it. -/
def nonBlank? (s : String) : Option String :=
  if trim s = "" then none else some (trim s)

end Text
end CodeAssistant
