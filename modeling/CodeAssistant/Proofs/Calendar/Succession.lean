import CodeAssistant.Calendar.Date
import Mathlib.Data.Int.Init
import Mathlib.Order.Monotone.Basic

namespace CodeAssistant
namespace Date

/-!
# The calendar from day to day

`ofDays` finds the date of a day in one go.  Here the calendar is described in the way it is kept:
every date has a next one, which depends on the lengths of the months and on the rule for leap
years.  The two descriptions agree (`ofDays_succ`), and so the dates of later days are later
(`before_ofDays`).

In between stands the year that starts in March.  A day is the `d`-th of such a year, and it is
known which year and which `d` by the number of days before that year (`exists_march`).
-/

/-- Whether the year has a leap day. -/
def isLeapYear (year : Int) : Bool :=
  year % 4 == 0 && (year % 100 != 0 || year % 400 == 0)

/-- The number of days of a month, in a leap year or not. -/
def monthLength (leap : Bool) : Nat → Nat
  | 2 => if leap then 29 else 28
  | 4 | 6 | 9 | 11 => 30
  | _ => 31

/-- The day after a date. -/
def next (date : Date) : Date :=
  if date.day < monthLength (isLeapYear date.year) date.month then
    ⟨date.year, date.month, date.day + 1⟩
  else if date.month < 12 then ⟨date.year, date.month + 1, 1⟩
  else ⟨date.year + 1, 1, 1⟩

/-- The order of dates. -/
def Before (first second : Date) : Prop :=
  first.year < second.year ∨ first.year = second.year ∧
    (first.month < second.month ∨ first.month = second.month ∧ first.day < second.day)

/-! ## Years of an era -/

theorem monotone_yearOfEra : Monotone yearOfEra := by
  apply monotone_nat_of_le_succ
  intro n
  apply Nat.div_le_div_right
  have fours : (n + 1) / 1460 ≤ n / 1460 + 1 := by omega
  have few : n / 1460 ≤ n := Nat.div_le_self _ _
  have centuries : n / 36524 ≤ (n + 1) / 36524 := by omega
  have eras (k : Nat) : k / 146096 = k / 36524 / 4 := by rw [Nat.div_div_eq_div_mul]
  rw [eras, eras]
  omega

theorem yearOfEra_yearStart : ∀ y < 400, yearOfEra (yearStart y) = y := by
  decide +kernel

theorem yearOfEra_yearEnd : ∀ y < 399, yearOfEra (yearStart (y + 1) - 1) = y := by
  decide +kernel

/-- A day of an era lies in the year that is computed for it. -/
theorem yearOfEra_spec {n : Nat} (inEra : n < eraDays) :
    yearOfEra n < 400 ∧ yearStart (yearOfEra n) ≤ n ∧
      (n < yearStart (yearOfEra n + 1) ∨ yearOfEra n = 399) := by
  have last : yearOfEra n ≤ 399 := monotone_yearOfEra (Nat.le_sub_one_of_lt inEra)
  refine ⟨Nat.lt_succ_of_le last, ?_, ?_⟩
  · by_contra early
    cases year : yearOfEra n with
    | zero => simp [year, yearStart] at early
    | succ y =>
      rw [year] at early last
      have at_most := monotone_yearOfEra (show n ≤ yearStart (y + 1) - 1 by omega)
      rw [year, yearOfEra_yearEnd y (by omega)] at at_most
      omega
  · by_contra late
    rw [not_or, Nat.not_lt] at late
    have at_least := monotone_yearOfEra late.1
    rw [yearOfEra_yearStart _ (by omega)] at at_least
    omega

/-! ## Years that start in March -/

/-- The number of days of the year that starts in March.  Its February belongs to the next civil
year. -/
def marchLength (year : Int) : Nat :=
  if isLeapYear (year + 1) then 366 else 365

/-- The number of days between the starts, in March, of year zero and of the given one. -/
def marchStart (year : Int) : Int :=
  365 * year + year / 4 - year / 100 + year / 400

/-- The date of a day of the year that starts in March, counted from zero. -/
def ofMarch (year : Int) (n : Nat) : Date :=
  { year := year + (if 10 ≤ monthOfYear n then 1 else 0)
    month := if 10 ≤ monthOfYear n then monthOfYear n - 9 else monthOfYear n + 3
    day := n - monthStart (monthOfYear n) + 1 }

theorem isLeapYear_iff {year : Int} :
    isLeapYear year = true ↔ year % 4 = 0 ∧ (year % 100 ≠ 0 ∨ year % 400 = 0) := by
  simp [isLeapYear]

theorem marchStart_succ (year : Int) :
    marchStart (year + 1) = marchStart year + marchLength year := by
  rw [marchStart, marchStart, marchLength]
  split
  · next leap =>
    rw [isLeapYear_iff] at leap
    omega
  · next common =>
    rw [isLeapYear_iff] at common
    omega

theorem marchStart_le_marchStart {first second : Int} (order : first ≤ second) :
    marchStart first ≤ marchStart second := by
  have rises : Monotone marchStart := by
    apply monotone_int_of_le_succ
    intro year
    rw [marchStart_succ, marchLength]
    split <;> omega
  exact rises order

/-- The leap day of an era that its own years do not show is the last one of the era. -/
theorem marchStart_of_era (era : Int) (y : Nat) (inEra : y ≤ 400) :
    marchStart (era * 400 + y) = era * eraDays + yearStart y + (y / 400 : Nat) := by
  rw [marchStart, eraDays, yearStart]
  omega

/-- Every day is a day of one of these years, and its date is the date there. -/
theorem exists_march (days : Int) :
    ∃ (year : Int) (n : Nat), n < marchLength year ∧ days + 719468 = marchStart year + n ∧
      ofDays days = ofMarch year n := by
  have positive : (0 : Int) < eraDays := by decide
  have parts := Int.ediv_mul_add_emod (days + 719468) eraDays
  have least := Int.emod_nonneg (days + 719468) positive.ne'
  have most := Int.emod_lt_of_pos (days + 719468) positive
  generalize atEra : (days + 719468) / (eraDays : Int) = era at parts
  generalize atDay : (days + 719468) % (eraDays : Int) = day at parts least most
  obtain ⟨inEra, starts, ends⟩ := yearOfEra_spec (n := day.toNat) (by omega)
  have start := marchStart_of_era era (yearOfEra day.toNat) inEra.le
  have following := marchStart_of_era era (yearOfEra day.toNat + 1) inEra
  rw [Int.natCast_succ, ← Int.add_assoc, marchStart_succ] at following
  have lastDay : eraDays = yearStart (399 + 1) + 1 := rfl
  refine ⟨era * 400 + yearOfEra day.toNat, day.toNat - yearStart (yearOfEra day.toNat), ?_, ?_, ?_⟩
  · rcases ends with inside | last
    · omega
    · rw [last] at starts start following ⊢
      omega
  · omega
  · rw [ofDays, atEra, atDay]
    rfl

/-- A day is in one place of one year only. -/
theorem march_unique {first second : Int} {m n : Nat} (inFirst : m < marchLength first)
    (inSecond : n < marchLength second) (same : marchStart first + m = marchStart second + n) :
    first = second ∧ m = n := by
  have firstEnd := marchStart_succ first
  have secondEnd := marchStart_succ second
  rcases Int.lt_trichotomy first second with earlier | rfl | later
  · have := marchStart_le_marchStart (Int.add_one_le_of_lt earlier)
    omega
  · omega
  · have := marchStart_le_marchStart (Int.add_one_le_of_lt later)
    omega

/-! ## From day to day -/

/-- The lengths of all months counted from March but the last, which is February. -/
theorem monthStart_succ : ∀ m < 11, ∀ leap, monthStart (m + 1) =
    monthStart m + monthLength leap (if 10 ≤ m then m - 9 else m + 3) := by
  decide

theorem monthStart_monthOfYear (n : Nat) :
    monthStart (monthOfYear n) ≤ n ∧ n < monthStart (monthOfYear n + 1) := by
  rw [monthStart, monthStart, monthOfYear]
  omega

theorem monthOfYear_eq {m n : Nat} (least : monthStart m ≤ n) (most : n < monthStart (m + 1)) :
    monthOfYear n = m := by
  rw [monthStart] at least most
  rw [monthOfYear]
  omega

theorem marchLength_cases (year : Int) :
    isLeapYear (year + 1) = true ∧ marchLength year = 366 ∨
      isLeapYear (year + 1) = false ∧ marchLength year = 365 := by
  rw [marchLength]
  cases isLeapYear (year + 1) with
  | true => exact Or.inl ⟨rfl, rfl⟩
  | false => exact Or.inr ⟨rfl, rfl⟩

theorem monthOfYear_lt {n : Nat} {year : Int} (inYear : n < marchLength year) :
    monthOfYear n < 12 := by
  have lengths := marchLength_cases year
  rw [monthOfYear]
  omega

theorem ofMarch_early {year : Int} {n : Nat} (early : monthOfYear n < 10) :
    ofMarch year n = ⟨year, monthOfYear n + 3, n - monthStart (monthOfYear n) + 1⟩ := by
  have before : ¬10 ≤ monthOfYear n := Nat.not_le_of_lt early
  rw [ofMarch, if_neg before, if_neg before, Int.add_zero]

theorem ofMarch_late {year : Int} {n : Nat} (late : 10 ≤ monthOfYear n) :
    ofMarch year n = ⟨year + 1, monthOfYear n - 9, n - monthStart (monthOfYear n) + 1⟩ := by
  rw [ofMarch, if_pos late, if_pos late]

/-- A day is the last of its month when the next month or the next year starts behind it. -/
theorem day_lt_monthLength_iff {year : Int} {n : Nat} (inYear : n < marchLength year) :
    (ofMarch year n).day <
        monthLength (isLeapYear (ofMarch year n).year) (ofMarch year n).month ↔
      n + 1 < monthStart (monthOfYear n + 1) ∧ n + 1 < marchLength year := by
  have lengths := marchLength_cases year
  obtain ⟨starts, ends⟩ := monthStart_monthOfYear n
  rcases Nat.lt_or_ge (monthOfYear n) 11 with early | late
  · have length := monthStart_succ _ early (isLeapYear (ofMarch year n).year)
    have nextYear : monthStart (monthOfYear n + 1) ≤ 337 := by
      rw [monthStart]
      omega
    rw [ofMarch] at length ⊢
    dsimp only at length ⊢
    omega
  · have february : monthOfYear n = 11 :=
      Nat.le_antisymm (Nat.le_of_lt_succ (monthOfYear_lt inYear)) late
    have start : monthStart 11 = 337 := rfl
    have ending : monthStart (11 + 1) = 367 := rfl
    have length : monthLength (isLeapYear (year + 1)) (11 - 9) + 337 = marchLength year := by
      rcases lengths with ⟨leap, length⟩ | ⟨common, length⟩
      · rw [leap, length]
        rfl
      · rw [common, length]
        rfl
    rw [february] at starts
    rw [ofMarch_late (by omega), february, ending]
    dsimp only
    omega

theorem ofMarch_succ {year : Int} {n : Nat} (inYear : n + 1 < marchLength year) :
    ofMarch year (n + 1) = (ofMarch year n).next := by
  have day := day_lt_monthLength_iff (Nat.lt_of_succ_lt inYear)
  have months := monthOfYear_lt inYear
  obtain ⟨starts, ends⟩ := monthStart_monthOfYear n
  by_cases within : n + 1 < monthStart (monthOfYear n + 1)
  · have month : monthOfYear (n + 1) = monthOfYear n := monthOfYear_eq (by omega) within
    rw [next, if_pos (day.mpr ⟨within, inYear⟩), ofMarch, ofMarch, month, Nat.succ_sub starts]
  · have following : n + 1 = monthStart (monthOfYear n + 1) := by omega
    have month : monthOfYear (n + 1) = monthOfYear n + 1 := by
      apply monthOfYear_eq following.ge
      rw [following, monthStart, monthStart]
      omega
    have first : n + 1 - monthStart (monthOfYear n + 1) = 0 := by omega
    have last := mt day.mp (fun both => within both.1)
    rcases Nat.lt_trichotomy (monthOfYear n) 9 with early | december | late
    · rw [ofMarch_early (by omega), month, first, next, if_neg last, ofMarch_early (by omega),
        if_pos (by simp only; omega)]
    · rw [ofMarch_late (by omega), month, first, next, if_neg last, ofMarch_early (by omega),
        if_neg (by simp only; omega), december]
    · rw [ofMarch_late (by omega), month, first, next, if_neg last, ofMarch_late (by omega),
        if_pos (by simp only; omega), Nat.sub_add_comm late.le]

theorem ofMarch_last {year : Int} {n : Nat} (last : n + 1 = marchLength year) :
    ofMarch (year + 1) 0 = (ofMarch year n).next := by
  have day := day_lt_monthLength_iff (Nat.lt_of_succ_le last.le)
  have lengths := marchLength_cases year
  have february : monthOfYear n = 11 := by
    rw [monthOfYear]
    omega
  have march : ofMarch (year + 1) 0 = ⟨year + 1, 3, 1⟩ := ofMarch_early (by decide)
  rw [march, next, if_neg (mt day.mp (by omega)), ofMarch_late (by omega), february]
  rfl

/-- The date of the day after is the date after. -/
theorem ofDays_succ (days : Int) : ofDays (days + 1) = (ofDays days).next := by
  obtain ⟨year, n, inYear, count, date⟩ := exists_march days
  obtain ⟨nextYear, next, inNext, nextCount, nextDate⟩ := exists_march (days + 1)
  rw [date, nextDate]
  by_cases within : n + 1 < marchLength year
  · obtain ⟨rfl, rfl⟩ := march_unique inNext within (by omega)
    exact ofMarch_succ within
  · have last : n + 1 = marchLength year := by omega
    have opened : 0 < marchLength (year + 1) := by
      rw [marchLength]
      split <;> decide
    have following := marchStart_succ year
    obtain ⟨rfl, rfl⟩ := march_unique inNext opened (by omega)
    exact ofMarch_last last

/-! ## Order -/

theorem Before.trans {first second third : Date} (before : first.Before second)
    (after : second.Before third) : first.Before third := by
  rw [Before] at *
  omega

theorem before_next (date : Date) : date.Before date.next := by
  rw [Before, next]
  split
  · exact Or.inr ⟨rfl, Or.inr ⟨rfl, Nat.lt_succ_self _⟩⟩
  · split
    · exact Or.inr ⟨rfl, Or.inl (Nat.lt_succ_self _)⟩
    · exact Or.inl (Int.lt_succ _)

/-- Later days have later dates. -/
theorem before_ofDays {m n : Int} (earlier : m < n) : (ofDays m).Before (ofDays n) := by
  induction n, Int.add_one_le_of_lt earlier using Int.leInduction with
  | base =>
    rw [ofDays_succ]
    exact before_next _
  | succ n _ ih =>
    rw [ofDays_succ]
    exact (ih (by omega)).trans (before_next _)

/-- There are twelve months, of at most 31 days. -/
theorem month_le_and_day_le (days : Int) : (ofDays days).month ≤ 12 ∧ (ofDays days).day ≤ 31 := by
  obtain ⟨year, n, inYear, -, date⟩ := exists_march days
  have months := monthOfYear_lt inYear
  have ends := (monthStart_monthOfYear n).2
  rw [monthStart] at ends
  rw [date, ofMarch, monthStart]
  dsimp only
  constructor
  · split <;> omega
  · omega

end Date
end CodeAssistant
