import CodeAssistant.Number.Binary64
import CodeAssistant.Number.Decimal
import CodeAssistant.Number.Total
import CodeAssistant.Quality.Grade
import CodeAssistant.Text.Lower
import CodeAssistant.Text.Search

namespace CodeAssistant

/-!
# Quality metrics

Code is scored along four dimensions from its significant lines alone.  The heuristics look for
words in the lower-cased text and know nothing of any syntax, so they apply to every language.  Each
dimension yields a score between 0 and 100, the letter for it, and a sentence that explains it.
-/

/-- A score between 0 and 100 for an unbounded one. -/
def clampScore (value : Int) : UInt8 :=
  UInt8.ofNat (min 100 value.toNat)

theorem toNat_clampScore (value : Int) : (clampScore value).toNat = min 100 value.toNat := by
  simp only [clampScore, UInt8.toNat_ofNat']
  omega

/-- One scored dimension of a report. -/
structure MetricResult where
  name : String
  score : UInt8
  letter : Grade
  explanation : String
  deriving DecidableEq

namespace MetricResult

/-- The result whose letter is the grade of its score. -/
def graded (name : String) (score : UInt8) (explanation : String) : MetricResult :=
  ⟨name, score, .ofScore score.toNat, explanation⟩

end MetricResult

/-- The dimensions along which code is scored. -/
inductive Metric where
  | complexity | defectDensity | duplication | size
  deriving DecidableEq, Repr

namespace Metric

/-- All dimensions, in the order in which reports list them. -/
def all : List Metric :=
  [.complexity, .defectDensity, .duplication, .size]

/-- The name of the dimension in reports. -/
def title : Metric → String
  | .complexity => "Cyclomatic Complexity"
  | .defectDensity => "Defect Density"
  | .duplication => "Code Duplication"
  | .size => "Lines of Code"

/-- The words that mark a branching point.  Some are parts of others: an `elif` counts for itself
and for the `if` in it. -/
def branchWords : List String :=
  ["if", "for", "while", "case", "when", "catch", "elif", "else if", "switch", "&&", "||"]

/-- The words that mark a line as a known risk. -/
def riskWords : List String :=
  ["todo", "fixme", "hack", "bug", "xxx"]

/-- The branching points of one line. -/
def lineBranches (line : String) : Nat :=
  let lowered := Text.lowerChars line.toList
  total (branchWords.map fun word => Text.occurrences word.toList lowered)

/-- The branching points of the lines. -/
def branches (lines : List String) : Nat :=
  total (lines.map lineBranches)

/-- Whether the line holds one of the risk words. -/
def isRisky (line : String) : Bool :=
  let lowered := Text.lowerChars line.toList
  riskWords.any fun word => Text.occursIn word.toList lowered

/-- The number of lines with a risk word. -/
def riskyLines (lines : List String) : Nat :=
  lines.countP isRisky

/-- Shorter lines, such as closing brackets, are repeated in any code and never count as copies. -/
def isLong (line : String) : Bool :=
  3 < line.toList.length

/-- Copies among lines that are already in lower case, after those in `seen`. -/
def copiesAfter (seen : List String) : List String → Nat
  | [] => 0
  | line :: rest =>
    if seen.contains line then 1 + copiesAfter seen rest else copiesAfter (line :: seen) rest

/-- The number of long lines that repeat an earlier one up to case. -/
def copies (lines : List String) : Nat :=
  copiesAfter [] ((lines.filter isLong).map Text.lower)

/-- A full score less `weight` times the share of `count` in `total`, computed with 53 significant
bits and rounded at the end. -/
def shareScore (weight count total : Nat) : UInt8 :=
  clampScore (((Binary64.ofRatio count (max 1 total)).times weight).subtractedFrom 100).toInt

/-- The score for a number of branching points: six points each. -/
def complexityScore (count : Nat) : UInt8 :=
  clampScore (100 - 6 * (count : Int))

/-- The score for a number of significant lines: three bands, then a decline by one point for every
five lines that stops at forty. -/
def sizeScore (count : Nat) : UInt8 :=
  if count ≤ 100 then 95
  else if count ≤ 250 then 80
  else if count ≤ 500 then 65
  else clampScore (max 40 (100 - (min 100 ((count - 500) / 5) : Nat)))

/-- A score below this deserves advice. -/
def adviceBound : UInt8 := 70

/-- The score of the lines along the dimension. -/
def score (lines : List String) : Metric → UInt8
  | .complexity => complexityScore (branches lines)
  | .defectDensity => shareScore 500 (riskyLines lines) lines.length
  | .duplication => shareScore 600 (copies lines) lines.length
  | .size => sizeScore lines.length

/-- The sentence that goes with the score. -/
def explanation (lines : List String) : Metric → String
  | .complexity =>
    "Cyclomatic complexity detected " ++ decimal (branches lines) ++ " branching points. " ++
      (if complexityScore (branches lines) < adviceBound then
        "Consider refactoring into smaller functions."
      else "Structure looks manageable.")
  | .defectDensity =>
    let risky := riskyLines lines
    if risky ≤ 1 then "Limited risk markers (" ++ decimal risky ++ ") found."
    else "Found " ++ decimal risky ++
      " potential TODO/FIXME markers. Address them to reduce defects."
  | .duplication =>
    let count := copies lines
    if count = 0 then "Minimal duplication detected."
    else "Detected " ++ decimal count ++ " duplicated lines. Consolidate shared logic."
  | .size =>
    "Code spans " ++ decimal lines.length ++ " significant lines. " ++
      (if sizeScore lines.length < adviceBound then "Stay concise to ease reviews."
      else "Size looks manageable.")

/-- The result for the lines along the dimension. -/
def evaluate (lines : List String) (metric : Metric) : MetricResult :=
  .graded metric.title (metric.score lines) (metric.explanation lines)

end Metric

end CodeAssistant
