namespace CodeAssistant

/-!
# Letter grades

A score is graded by the greatest threshold that it reaches.  Every integer has a grade: scores
above one hundred are an `A+`, negative ones an `F`.
-/

/-- A letter grade, best first. -/
inductive Grade where
  | aPlus | a | aMinus
  | bPlus | b | bMinus
  | cPlus | c | cMinus
  | d | f
  deriving DecidableEq, Repr

namespace Grade

/-- The letter as it is printed and transmitted. -/
def label : Grade → String
  | .aPlus => "A+"
  | .a => "A"
  | .aMinus => "A-"
  | .bPlus => "B+"
  | .b => "B"
  | .bMinus => "B-"
  | .cPlus => "C+"
  | .c => "C"
  | .cMinus => "C-"
  | .d => "D"
  | .f => "F"

/-- All grades, best first. -/
def all : List Grade :=
  [.aPlus, .a, .aMinus, .bPlus, .b, .bMinus, .cPlus, .c, .cMinus, .d, .f]

theorem mem_all (g : Grade) : g ∈ all := by
  cases g <;> decide

/-- The grade with a given label. -/
def ofLabel? (s : String) : Option Grade :=
  all.find? (fun g => g.label == s)

theorem ofLabel?_label (g : Grade) : ofLabel? g.label = some g := by
  cases g <;> decide

/-- The least score of each grade above `F`, best first. -/
def thresholds : List (Int × Grade) :=
  [(97, .aPlus), (93, .a), (90, .aMinus), (87, .bPlus), (83, .b), (80, .bMinus), (77, .cPlus),
    (73, .c), (70, .cMinus), (60, .d)]

/-- The grade of a score. -/
def ofScore (score : Int) : Grade :=
  match thresholds.find? (fun entry => entry.1 ≤ score) with
  | some entry => entry.2
  | none => .f

end Grade

end CodeAssistant
