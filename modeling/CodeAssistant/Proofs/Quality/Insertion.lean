import CodeAssistant.Proofs.Quality.Duplication
import CodeAssistant.Proofs.Quality.Invariance
import CodeAssistant.Proofs.Quality.Shares

namespace CodeAssistant
namespace Metric

open Text

/-!
# One more line

A further line changes both the number of lines at fault and the number of all lines.  If it is at
fault itself, the share of such lines does not become smaller, since no share exceeds one; if it is
not, the share does not become larger (`Falls.insertion`).  The rest is counting: a line with a risk
word is one more risky line, and a line that repeats another one is one more copy, wherever it
stands.  It may be an earlier line that becomes the first of its kind or a later one that becomes a
copy, and the number of copies is the same (`copies_cons`).
-/

/-- The line is long enough to count, and one of the others that are is the same up to case. -/
def Repeats (line : String) (others : List String) : Prop :=
  isLong line = true ∧ ∃ other ∈ others, isLong other = true ∧ lower other = lower line

instance (line : String) (others : List String) : Decidable (Repeats line others) :=
  inferInstanceAs (Decidable (isLong line = true ∧
    ∃ other ∈ others, isLong other = true ∧ lower other = lower line))

/-! ## Counting -/

theorem riskyLines_cons (line : String) (lines : List String) :
    riskyLines (line :: lines) = riskyLines lines + if HasRiskWord line then 1 else 0 := by
  rw [riskyLines_eq, riskyLines_eq, List.countP_cons]
  simp only [decide_eq_true_eq]

theorem lower_mem_longLines_iff {line : String} {lines : List String} :
    lower line ∈ longLines lines ↔
      ∃ other ∈ lines, isLong other = true ∧ lower other = lower line := by
  rw [longLines, List.mem_map]
  simp only [List.mem_filter, and_assoc]

theorem longLines_cons_of_long {line : String} (long : isLong line = true) (lines : List String) :
    longLines (line :: lines) = lower line :: longLines lines := by
  rw [longLines, List.filter_cons_of_pos long, List.map_cons, longLines]

theorem longLines_cons_of_short {line : String} (short : ¬isLong line = true)
    (lines : List String) : longLines (line :: lines) = longLines lines := by
  rw [longLines, List.filter_cons_of_neg short, longLines]

theorem copies_cons (line : String) (lines : List String) :
    copies (line :: lines) = copies lines + if Repeats line lines then 1 else 0 := by
  have counted := copies_add_card lines
  have counted' := copies_add_card (line :: lines)
  by_cases long : isLong line = true
  · rw [longLines_cons_of_long long, List.toFinset_cons, List.length_cons] at counted'
    by_cases known : lower line ∈ longLines lines
    · rw [Finset.insert_eq_of_mem (List.mem_toFinset.mpr known)] at counted'
      rw [if_pos ⟨long, lower_mem_longLines_iff.mp known⟩]
      omega
    · rw [Finset.card_insert_of_notMem (by rwa [List.mem_toFinset])] at counted'
      rw [if_neg (fun repeated => known (lower_mem_longLines_iff.mpr repeated.2))]
      omega
  · rw [longLines_cons_of_short long] at counted'
    rw [if_neg (fun repeated => long repeated.1)]
    omega

theorem copies_le_length (lines : List String) : copies lines ≤ lines.length := by
  have counted := copies_add_card lines
  have bounded := length_longLines_le lines
  omega

theorem riskyLines_le_length (lines : List String) : riskyLines lines ≤ lines.length :=
  List.countP_le_length

/-! ## Scoring -/

/-- A line at fault does not raise a falling score, and another line does not lower it. -/
theorem Falls.insertion {score : ℕ → ℕ → UInt8} (falls : Falls score) {count total : ℕ}
    (bounded : count ≤ total) (fault : Prop) [Decidable fault] :
    (fault → score (count + if fault then 1 else 0) (total + 1) ≤ score count total) ∧
      (¬fault → score count total ≤ score (count + if fault then 1 else 0) (total + 1)) := by
  constructor
  · intro present
    rw [if_pos present]
    apply falls
    rw [share_le_share_iff]
    rcases Nat.eq_zero_or_pos total with none | some
    · have zero : count = 0 := by omega
      rw [zero, Nat.zero_mul]
      exact Nat.zero_le _
    · rw [Nat.max_eq_right some, Nat.max_eq_right (Nat.le_add_left 1 total), Nat.mul_add,
        Nat.add_mul]
      omega
  · intro absent
    rw [if_neg absent]
    apply falls
    rw [share_le_share_iff]
    exact Nat.mul_le_mul_left _ (by omega)

/-- Where a line is inserted, the two scores of shares move in the direction that it deserves. -/
theorem evaluate_insertion (before after : List String) (line : String) :
    let lines := before ++ after
    let longer := before ++ line :: after
    (HasRiskWord line →
      (Metric.defectDensity.evaluate longer).score ≤ (Metric.defectDensity.evaluate lines).score) ∧
    (¬HasRiskWord line →
      (Metric.defectDensity.evaluate lines).score ≤ (Metric.defectDensity.evaluate longer).score) ∧
    (Repeats line lines →
      (Metric.duplication.evaluate longer).score ≤ (Metric.duplication.evaluate lines).score) ∧
    (¬Repeats line lines →
      (Metric.duplication.evaluate lines).score ≤ (Metric.duplication.evaluate longer).score) := by
  intro lines longer
  have rearranged : longer.Perm (line :: lines) := List.perm_middle
  have risky := (falls_shareScore 500).insertion (riskyLines_le_length lines) (HasRiskWord line)
  have copied := (falls_shareScore 600).insertion (copies_le_length lines) (Repeats line lines)
  rw [← riskyLines_cons, ← List.length_cons (a := line)] at risky
  rw [← copies_cons, ← List.length_cons (a := line)] at copied
  rw [evaluate_perm rearranged]
  exact ⟨risky.1, risky.2, copied.1, copied.2⟩

/-- In the middle of three lines: a line that is risky and repeats the one after it, and a line that
is neither. -/
theorem evaluate_insertion_between :
    let before := ["count = 0"]
    let after := ["// TODO: count", "end"]
    let lines := before ++ after
    let longer (line : String) := before ++ line :: after
    HasRiskWord "// todo: COUNT" ∧ ¬HasRiskWord "count += 1" ∧
    Repeats "// todo: COUNT" lines ∧ ¬Repeats "count += 1" lines ∧
    (Metric.defectDensity.evaluate (longer "// todo: COUNT")).score ≤
      (Metric.defectDensity.evaluate lines).score ∧
    (Metric.defectDensity.evaluate lines).score ≤
      (Metric.defectDensity.evaluate (longer "count += 1")).score ∧
    (Metric.duplication.evaluate (longer "// todo: COUNT")).score ≤
      (Metric.duplication.evaluate lines).score ∧
    (Metric.duplication.evaluate lines).score ≤
      (Metric.duplication.evaluate (longer "count += 1")).score := by
  intro before after lines longer
  have risky : HasRiskWord "// todo: COUNT" := by decide +kernel
  have harmless : ¬HasRiskWord "count += 1" := by decide +kernel
  have copied : Repeats "// todo: COUNT" lines := by decide +kernel
  have new : ¬Repeats "count += 1" lines := by decide +kernel
  have first := evaluate_insertion before after "// todo: COUNT"
  have second := evaluate_insertion before after "count += 1"
  exact ⟨risky, harmless, copied, new, first.1 risky, second.2.1 harmless, first.2.2.1 copied,
    second.2.2.2 new⟩

end Metric
end CodeAssistant
