import CodeAssistant.Proofs.Quality.Acceptance
import CodeAssistant.Proofs.Quality.Duplication

namespace CodeAssistant

/-!
# What a report does not depend on

A report on code that has significant lines is made from these lines alone, and from four counts on
them: the branching points, the lines with a risk word, the copies, and the lines.  Code may
therefore be put into another form (`ofRequest_of_reformats`), and its lines may be put into another
order (`ofRequest_of_perm`), without any change to the report.
-/

namespace Metric

/-- A metric is evaluated from the four counts. -/
theorem evaluate_congr {first second : List String}
    (branching : branches first = branches second) (risky : riskyLines first = riskyLines second)
    (copied : copies first = copies second) (size : first.length = second.length) :
    evaluate first = evaluate second := by
  have scores (metric : Metric) : score first metric = score second metric := by
    cases metric <;> simp only [score, branching, risky, copied, size]
  have sentences (metric : Metric) : explanation first metric = explanation second metric := by
    unfold explanation
    rw [branching, risky, copied, size]
  funext metric
  rw [evaluate, evaluate, scores, sentences]

/-- None of the four counts depends on the order of the lines. -/
theorem evaluate_perm {first second : List String} (rearranged : first.Perm second) :
    evaluate first = evaluate second :=
  evaluate_congr (total_perm (rearranged.map lineBranches)) (rearranged.countP_eq isRisky)
    (copies_perm rearranged) rearranged.length_eq

end Metric

namespace QualityReport

open Text

theorem ofLines_congr {first second : List String}
    (same : Metric.evaluate first = Metric.evaluate second) (language : Option String) :
    ofLines first language = ofLines second language := by
  rw [ofLines, same, ofLines]

/-! ## Form -/

/-- The report on code with significant lines is the report on any other form of it. -/
theorem ofRequest_of_reformats {code text : String} (found : significantLines code ≠ [])
    (reformatted : Reformats code text) (language : Option String) :
    ofRequest ⟨text, language⟩ = ofRequest ⟨code, language⟩ := by
  have same := (reformats_iff found).mp reformatted
  have kept : significantLines text ≠ [] := by rwa [same]
  rw [ofRequest_of_significant kept, ofRequest_of_significant found, same]

theorem ofRequest_reformatted_loop :
    significantLines "while a:\r\n\r\n  b()\n" ≠ [] ∧
      Reformats "while a:\r\n\r\n  b()\n" "\x1c\twhile a: \x1e\r b()\u2028\u3000" ∧
      ofRequest ⟨"\x1c\twhile a: \x1e\r b()\u2028\u3000", some "python"⟩ =
        ofRequest ⟨"while a:\r\n\r\n  b()\n", some "python"⟩ := by
  have found : significantLines "while a:\r\n\r\n  b()\n" ≠ [] := by decide +kernel
  have reformatted : Reformats "while a:\r\n\r\n  b()\n" "\x1c\twhile a: \x1e\r b()\u2028\u3000" :=
    (reformats_iff found).mpr (by decide +kernel)
  exact ⟨found, reformatted, ofRequest_of_reformats found reformatted _⟩

/-! ## Order -/

/-- The report on code does not change when its significant lines are put into another order. -/
theorem ofRequest_of_perm {first second : String} (found : significantLines first ≠ [])
    (rearranged : (significantLines first).Perm (significantLines second))
    (language : Option String) :
    ofRequest ⟨first, language⟩ = ofRequest ⟨second, language⟩ := by
  have kept : significantLines second ≠ [] := fun none =>
    found (List.perm_nil.mp (none ▸ rearranged))
  rw [ofRequest_of_significant found, ofRequest_of_significant kept]
  exact ofLines_congr (Metric.evaluate_perm rearranged) language

theorem ofRequest_reordered_calls :
    significantLines "Call()\nx\ncall()" ≠ [] ∧
      (significantLines "Call()\nx\ncall()").Perm (significantLines "call()\nCall()\nx") ∧
      ofRequest ⟨"Call()\nx\ncall()", none⟩ = ofRequest ⟨"call()\nCall()\nx", none⟩ := by
  have found : significantLines "Call()\nx\ncall()" ≠ [] := by decide +kernel
  have rearranged : (significantLines "Call()\nx\ncall()").Perm
      (significantLines "call()\nCall()\nx") := by decide +kernel
  exact ⟨found, rearranged, ofRequest_of_perm found rearranged none⟩

end QualityReport
end CodeAssistant
