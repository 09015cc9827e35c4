import CodeAssistant.Proofs.Text.LetterCase
import CodeAssistant.Text.Alphanumeric

namespace CodeAssistant
namespace Text

/-!
# Small letters

The lower case of an alphanumeric character is a single alphanumeric character that has no other
lower case (`exists_lowerChar_eq`).  There is one exception, `İ`: its lower case is an `i` and a
combining dot, which is not alphanumeric.

For a stretch of capitals this is read off the tables.  Its small letters are a stretch too, which
lies in one block of alphanumeric code points and meets no other stretch of capitals, except that
capitals and small letters may take turns.
-/

/-- An alphanumeric character that is its own lower case. -/
structure IsSmall (c : Char) : Prop where
  alphanumeric : isAlphanumeric c = true
  lower : lowerChar c = [c]

namespace CapitalRange

/-- The small letter of the first capital of a stretch. -/
def lowerFirst (r : CapitalRange) : Nat :=
  (r.first + r.shift).toNat

/-- The small letter of the last capital of a stretch. -/
def lowerLast (r : CapitalRange) : Nat :=
  (r.last + r.shift).toNat

/-- Whether the small letters of a stretch are all in one block. -/
def lowerWithin (r : CapitalRange) (s : CodeRange) : Bool :=
  r.lowerLast.ble s.last && s.first.ble r.lowerFirst

/-- Whether the small letters of a stretch and the capitals of another are apart, or take turns. -/
def lowerApart (r s : CapitalRange) : Bool :=
  r.lowerLast.blt s.first || (s.last.blt r.lowerFirst ||
    (s.step == 2 && (r.step == 2 || r.first == r.last) && (r.lowerFirst - s.first) % 2 == 1))

theorem contains_iff {r : CapitalRange} {n : Nat} :
    r.contains n = true ↔ (r.first ≤ n ∧ n ≤ r.last) ∧ (n - r.first) % r.step = 0 := by
  simp [contains]

end CapitalRange

/-! ## Tables -/

theorem capitalRanges_ordered : ∀ r ∈ capitalRanges, r.first ≤ r.last ∧ 0 ≤ r.first + r.shift := by
  decide +kernel

theorem lowerWithin_alphanumericRanges : (capitalRanges.all fun r =>
    alphanumericRanges.any fun s => r.lowerWithin s) = true := by
  decide +kernel

theorem lowerApart_capitalRanges : (capitalRanges.all fun r =>
    capitalRanges.all fun s => r.lowerApart s) = true := by
  decide +kernel

theorem lower_ne_dotted : ∀ r ∈ capitalRanges, r.lowerLast < 0x130 ∨ 0x130 < r.lowerFirst := by
  decide +kernel

theorem isValidChar_of_alphanumericRanges : ∀ r ∈ alphanumericRanges,
    r.last < 0xD800 ∨ (0xE000 ≤ r.first ∧ r.last < 0x110000) := by
  decide +kernel

/-! ## Characters -/

variable {c : Char}

theorem toNat_ofNat_of_alphanumeric {n : Nat}
    (alphanumeric : CodeRange.anyContains alphanumericRanges n = true) :
    (Char.ofNat n).toNat = n := by
  obtain ⟨r, member, first, last⟩ := CodeRange.anyContains_iff.mp alphanumeric
  have block := isValidChar_of_alphanumericRanges r member
  have valid : n.isValidChar := by
    rw [Nat.isValidChar]
    omega
  rw [Char.ofNat, dif_pos valid]
  rfl

theorem lowerChar_of_not_capital (plain : c ≠ 'İ')
    (small : ∀ r ∈ capitalRanges, r.contains c.toNat = false) : lowerChar c = [c] := by
  have listed : ∀ c ∈ capitals, capitalRanges.any (fun r => r.contains c.toNat) = true :=
    forall_capitals (by decide)
  rw [lowerChar]
  by_cases ascii : c.toNat < 0x80
  · rw [if_pos ascii]
    rcases toLower_eq_or_mem_capitals c with same | capital
    · rw [same]
    · obtain ⟨r, member, within⟩ := List.any_eq_true.mp (listed c capital)
      rw [small r member] at within
      cases within
  · have none : capitalRanges.find? (fun r => r.contains c.toNat) = none := by
      rw [List.find?_eq_none]
      intro r member
      rw [small r member]
      exact Bool.false_ne_true
    rw [if_neg ascii, if_neg plain, none]

theorem isAlphanumeric_toLower (c : Char) : isAlphanumeric c.toLower = isAlphanumeric c :=
  apply_toLower (forall_capitals (by decide)) c

/-- The small letters of a stretch are no capitals. -/
theorem contains_eq_false_of_lowerApart {r s : CapitalRange} {k : Nat}
    (apart : r.lowerApart s = true) (last : r.lowerFirst + k ≤ r.lowerLast)
    (inside : r.first + k ≤ r.last) (stepped : k % r.step = 0) :
    s.contains (r.lowerFirst + k) = false := by
  rw [Bool.eq_false_iff, ne_eq, CapitalRange.contains_iff]
  rintro ⟨⟨least, most⟩, steps⟩
  simp only [CapitalRange.lowerApart, Bool.or_eq_true, Bool.and_eq_true, Nat.blt_eq,
    beq_iff_eq] at apart
  rcases apart with below | above | ⟨⟨two, turns⟩, odd⟩
  · omega
  · omega
  · have even : k % 2 = 0 := by
      rcases turns with alsoTwo | single
      · rwa [alsoTwo] at stepped
      · omega
    rw [two] at steps
    omega

/-- The small letter of a capital of the table. -/
theorem isSmall_of_capital {r : CapitalRange} (member : r ∈ capitalRanges)
    (capital : r.contains c.toNat = true) :
    IsSmall (Char.ofNat (Int.ofNat c.toNat + r.shift).toNat) := by
  obtain ⟨⟨least, most⟩, stepped⟩ := CapitalRange.contains_iff.mp capital
  obtain ⟨k, split⟩ := Nat.exists_eq_add_of_le least
  obtain ⟨ordered, positive⟩ := capitalRanges_ordered r member
  have number : (Int.ofNat c.toNat + r.shift).toNat = r.lowerFirst + k := by
    rw [CapitalRange.lowerFirst, Int.ofNat_eq_natCast]
    omega
  have within : r.lowerFirst + k ≤ r.lowerLast := by
    rw [CapitalRange.lowerFirst, CapitalRange.lowerLast]
    omega
  rw [split, Nat.add_sub_cancel_left] at stepped
  have alphanumeric : CodeRange.anyContains alphanumericRanges (r.lowerFirst + k) = true := by
    obtain ⟨s, block, inBlock⟩ :=
      List.any_eq_true.mp (List.all_eq_true.mp lowerWithin_alphanumericRanges r member)
    rw [CapitalRange.lowerWithin, Bool.and_eq_true, Nat.ble_eq, Nat.ble_eq] at inBlock
    exact CodeRange.anyContains_iff.mpr ⟨s, block, by omega, by omega⟩
  have letter := toNat_ofNat_of_alphanumeric alphanumeric
  rw [number]
  refine ⟨by rw [isAlphanumeric, letter, alphanumeric], lowerChar_of_not_capital ?_ ?_⟩
  · intro dotted
    have apart := lower_ne_dotted r member
    rw [dotted] at letter
    have point : 'İ'.toNat = 0x130 := rfl
    omega
  · intro s other
    rw [letter]
    have fromAll := List.all_eq_true.mp lowerApart_capitalRanges r member
    have apart := List.all_eq_true.mp fromAll s other
    exact contains_eq_false_of_lowerApart apart within (by omega) stepped

/-- The lower case of an alphanumeric character but `İ` is a single one, which is small. -/
theorem exists_lowerChar_eq (alphanumeric : isAlphanumeric c = true) (plain : c ≠ 'İ') :
    ∃ d, lowerChar c = [d] ∧ IsSmall d := by
  by_cases ascii : c.toNat < 0x80
  · have lower : lowerChar c = [c.toLower] := by rw [lowerChar, if_pos ascii]
    refine ⟨c.toLower, lower, ?_, ?_⟩
    · rw [isAlphanumeric_toLower, alphanumeric]
    · rw [lowerChar_toLower, lower]
  · cases found : capitalRanges.find? fun r => r.contains c.toNat with
    | none =>
      have lower : lowerChar c = [c] := by rw [lowerChar, if_neg ascii, if_neg plain, found]
      exact ⟨c, lower, alphanumeric, lower⟩
    | some r =>
      have capital := List.find?_some found
      refine ⟨_, ?_, isSmall_of_capital (List.mem_of_find?_eq_some found) capital⟩
      rw [lowerChar, if_neg ascii, if_neg plain, found]

end Text
end CodeAssistant
