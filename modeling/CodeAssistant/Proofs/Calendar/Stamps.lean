import CodeAssistant.Calendar.Instant
import CodeAssistant.Proofs.Calendar.Succession
import CodeAssistant.Proofs.Text.Precedence

namespace CodeAssistant
namespace Instant

/-!
# Stamps in the order of time

In the years that have four digits the stamps of later seconds come later in a dictionary
(`precedes_stamp`).  Hence two instants have the same stamp exactly when they lie in the same second
(`stamp_eq_stamp_iff`).  A leap second is a second of its own, between the last second of its minute
and the first of the next one.
-/

open Text

/-- The order of time. -/
def Before (first second : Instant) : Prop :=
  first.seconds < second.seconds ∨
    first.seconds = second.seconds ∧ first.nanos < second.nanos

/-- The instants lie in the same second.  A leap second is not the second that it follows. -/
def SameSecond (first second : Instant) : Prop :=
  first.seconds = second.seconds ∧ first.isLeap = second.isLeap

/-- The year of the instant has four digits, if one counts zeros in front. -/
def HasUsualYear (t : Instant) : Prop :=
  0 ≤ t.date.year ∧ t.date.year ≤ 9999

instance (first second : Instant) : Decidable (first.Before second) :=
  inferInstanceAs (Decidable (_ ∨ _ ∧ _))

instance (first second : Instant) : Decidable (first.SameSecond second) :=
  inferInstanceAs (Decidable (_ ∧ _))

instance (t : Instant) : Decidable t.HasUsualYear :=
  inferInstanceAs (Decidable (_ ∧ _))

/-- The number of the second within its minute, which is sixty in a leap second. -/
def secondOfMinute (t : Instant) : Nat :=
  t.secondOfDay % 60 + if t.isLeap then 1 else 0

/-- The order of the time of the day. -/
def ClockBefore (first second : Instant) : Prop :=
  first.secondOfDay / 3600 < second.secondOfDay / 3600 ∨
    first.secondOfDay / 3600 = second.secondOfDay / 3600 ∧
      (first.secondOfDay / 60 % 60 < second.secondOfDay / 60 % 60 ∨
        first.secondOfDay / 60 % 60 = second.secondOfDay / 60 % 60 ∧
          first.secondOfMinute < second.secondOfMinute)

variable {first second t : Instant}

theorem secondOfDay_lt (t : Instant) : t.secondOfDay < 86400 := by
  rw [secondOfDay]
  omega

theorem secondOfDay_of_isLeap (leap : t.isLeap = true) : t.secondOfDay % 60 = 59 := by
  have fraction := t.nanos_lt
  rw [isLeap, decide_eq_true_eq] at leap
  rw [secondOfDay]
  omega

theorem secondOfMinute_lt (t : Instant) : t.secondOfMinute < 100 := by
  rw [secondOfMinute]
  split <;> omega

/-- On the same day the time of an earlier second is earlier. -/
theorem clockBefore_of_lt (earlier : first.secondOfDay < second.secondOfDay) :
    first.ClockBefore second := by
  rw [ClockBefore, secondOfMinute, secondOfMinute]
  by_cases leap : first.isLeap = true
  · have last := secondOfDay_of_isLeap leap
    omega
  · rw [if_neg leap]
    omega

/-- A leap second comes after the second with which it shares its number. -/
theorem clockBefore_of_leap (same : first.secondOfDay = second.secondOfDay)
    (fraction : first.nanos < second.nanos) (other : first.isLeap ≠ second.isLeap) :
    first.ClockBefore second := by
  have leaps : first.isLeap = false ∧ second.isLeap = true := by
    rw [isLeap, isLeap, ne_eq, decide_eq_decide] at other
    rw [isLeap, isLeap, decide_eq_false_iff_not, decide_eq_true_eq]
    omega
  rw [ClockBefore, secondOfMinute, secondOfMinute, leaps.1, leaps.2, same]
  exact Or.inr ⟨rfl, Or.inr ⟨rfl, Nat.lt_succ_self _⟩⟩

/-- An earlier second is on an earlier day, or on the same day at an earlier time. -/
theorem day_or_clock_before (before : first.Before second) (other : ¬first.SameSecond second) :
    first.seconds / 86400 < second.seconds / 86400 ∨
      first.seconds / 86400 = second.seconds / 86400 ∧ first.ClockBefore second := by
  rcases before with earlier | ⟨same, fraction⟩
  · by_cases day : first.seconds / 86400 < second.seconds / 86400
    · exact Or.inl day
    · refine Or.inr ⟨by omega, clockBefore_of_lt ?_⟩
      rw [secondOfDay, secondOfDay]
      omega
  · refine Or.inr ⟨by rw [same], clockBefore_of_leap ?_ fraction fun leaps => other ⟨same, leaps⟩⟩
    rw [secondOfDay, same, secondOfDay]

/-! ## Characters -/

/-- The characters of stamps that are not digits. -/
def stampSigns : List Char :=
  ['_', '+', '-']

theorem isDigit_or_sign_of_mem_yearText {year : Int} {c : Char}
    (member : c ∈ (yearText year).toList) : c.isDigit = true ∨ c ∈ stampSigns := by
  rw [yearText] at member
  by_cases usual : 0 ≤ year ∧ year ≤ 9999
  · rw [if_pos usual] at member
    exact Or.inl (isDigit_of_mem_decimalPadded member)
  · rw [if_neg usual, String.toList_append, List.mem_append] at member
    rcases member with sign | digit
    · right
      split at sign
      · rw [List.mem_singleton.mp sign]
        decide
      · rw [List.mem_singleton.mp sign]
        decide
    · exact Or.inl (isDigit_of_mem_decimalPadded digit)

theorem isDigit_or_sign_of_mem_stamp {c : Char} (member : c ∈ t.stamp.toList) :
    c.isDigit = true ∨ c ∈ stampSigns := by
  simp only [stamp, String.toList_append, List.mem_append] at member
  rcases member with (((((year | month) | day) | mark) | hour) | minute) | second
  · exact isDigit_or_sign_of_mem_yearText year
  · exact Or.inl (isDigit_of_mem_decimalPadded month)
  · exact Or.inl (isDigit_of_mem_decimalPadded day)
  · rw [List.mem_singleton.mp mark]
    decide
  · exact Or.inl (isDigit_of_mem_decimalPadded hour)
  · exact Or.inl (isDigit_of_mem_decimalPadded minute)
  · exact Or.inl (isDigit_of_mem_decimalPadded second)

/-! ## Stamps -/

/-- Three numerals, of which the second and the third have two digits. -/
def numerals (width first second third : Nat) : String :=
  decimalPadded '0' width first ++ decimalPadded '0' 2 second ++ decimalPadded '0' 2 third

section
variable {width a b c x y z : Nat}

theorem precedes_numerals (fits : x < 10 ^ (width + 1)) (secondFits : y < 100) (thirdFits : z < 100)
    (decided : a < x ∨ a = x ∧ (b < y ∨ b = y ∧ c < z)) :
    Precedes (numerals (width + 1) a b c) (numerals (width + 1) x y z) := by
  rw [numerals, numerals]
  rcases decided with smaller | ⟨rfl, smaller | ⟨rfl, smaller⟩⟩
  · exact ((precedes_decimalPadded smaller fits).append _ _).append _ _
  · exact ((precedes_decimalPadded smaller secondFits).append_left _).append _ _
  · exact (precedes_decimalPadded smaller thirdFits).append_left _

end

theorem stamp_of_hasUsualYear (usual : t.HasUsualYear) :
    t.stamp = numerals 4 t.date.year.toNat t.date.month t.date.day ++
      ("_" ++ numerals 2 (t.secondOfDay / 3600) (t.secondOfDay / 60 % 60) t.secondOfMinute) := by
  have year : yearText t.date.year = decimalPadded '0' 4 t.date.year.toNat := if_pos usual
  simp only [stamp, year, numerals, secondOfMinute, String.append_assoc]

/-- No numeral is too long for its width. -/
theorem fields_lt (usual : t.HasUsualYear) :
    (t.date.year.toNat < 10 ^ 4 ∧ t.date.month < 100 ∧ t.date.day < 100) ∧
      t.secondOfDay / 3600 < 10 ^ 2 ∧ t.secondOfDay / 60 % 60 < 100 ∧ t.secondOfMinute < 100 := by
  have year := usual.2
  obtain ⟨month, day⟩ := Date.month_le_and_day_le (t.seconds / 86400)
  have daytime := t.secondOfDay_lt
  refine ⟨⟨by omega, ?_, ?_⟩, by omega, by omega, t.secondOfMinute_lt⟩
  · exact Nat.lt_of_le_of_lt month (by decide)
  · exact Nat.lt_of_le_of_lt day (by decide)

/-- The stamps of later seconds come later. -/
theorem precedes_stamp (firstUsual : first.HasUsualYear) (secondUsual : second.HasUsualYear)
    (before : first.Before second) (other : ¬first.SameSecond second) :
    Precedes first.stamp second.stamp := by
  obtain ⟨⟨year, month, day⟩, hour, minute, inMinute⟩ := fields_lt secondUsual
  rw [stamp_of_hasUsualYear firstUsual, stamp_of_hasUsualYear secondUsual]
  apply Precedes.of_parts
  rcases day_or_clock_before before other with earlier | ⟨sameDay, clock⟩
  · have dates : first.date.Before second.date := Date.before_ofDays earlier
    have least := firstUsual.1
    refine Or.inl (precedes_numerals year month day ?_)
    rw [Date.Before] at dates
    omega
  · refine Or.inr ⟨by rw [date, sameDay, date], Precedes.append_left ?_ _⟩
    exact precedes_numerals hour minute inMinute clock

theorem SameSecond.symm (same : first.SameSecond second) : second.SameSecond first :=
  ⟨same.1.symm, same.2.symm⟩

theorem SameSecond.stamp_eq (same : first.SameSecond second) : first.stamp = second.stamp := by
  have day : first.date = second.date := by rw [date, same.1, date]
  have daytime : first.secondOfDay = second.secondOfDay := by rw [secondOfDay, same.1, secondOfDay]
  rw [stamp, stamp, day, daytime, same.2]

/-- Of two instants in different seconds one is the earlier. -/
theorem before_or_before (other : ¬first.SameSecond second) :
    first.Before second ∨ second.Before first := by
  rw [SameSecond, isLeap, isLeap, decide_eq_decide] at other
  rw [Before, Before]
  omega

/-- Instants have the same stamp when they lie in the same second. -/
theorem stamp_eq_stamp_iff (firstUsual : first.HasUsualYear) (secondUsual : second.HasUsualYear) :
    first.stamp = second.stamp ↔ first.SameSecond second := by
  refine ⟨fun same => ?_, SameSecond.stamp_eq⟩
  by_contra other
  rcases before_or_before other with before | before
  · exact String.ne_of_lt (precedes_stamp firstUsual secondUsual before other).lt same
  · exact String.ne_of_lt
      (precedes_stamp secondUsual firstUsual before (other ∘ SameSecond.symm)).lt same.symm

end Instant
end CodeAssistant
