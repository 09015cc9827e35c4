import CodeAssistant.Proofs.Quality.ReportLines
import CodeAssistant.Proofs.Text.TableRows

namespace CodeAssistant

/-!
# Reading the table of the metrics

The Markdown of a report has a row for each metric.  A row is read by cutting it into four cells at
the bars that no backslash precedes; in the last cell the bars then lose their backslashes.  The
rows give all metrics back unless a name has a bare bar in it, or a name or a sentence has several
lines (`readRows_toMarkdown_iff`).  Of the two texts in a row only the sentence is escaped, and
neither is kept on one line.
-/

open Text

namespace QualityReport

/-- The score that a numeral denotes, if it is one. -/
def readScore? (cs : List Char) : Option UInt8 :=
  (digitsValue? cs).bind fun value => if value < UInt8.size then some (.ofNat value) else none

/-- The result that four cells show. -/
def readCells? : List (List Char) → Option MetricResult
  | [name, score, letter, notes] => do
    let name ← unpad? name
    let score ← (unpad? score).bind readScore?
    let letter ← (unpad? letter).bind fun cs => Grade.ofLabel? (String.ofList cs)
    let notes ← unpad? notes
    return ⟨String.ofList name, score, letter, String.ofList (unescapeBars notes)⟩
  | _ => none

/-- The result that a row shows. -/
def readRow? (line : String) : Option MetricResult :=
  (rowCells? line.toList).bind readCells?

/-- The texts of the result do not break its row. -/
structure FitsRow (metric : MetricResult) : Prop where
  name : '\n' ∉ metric.name.toList
  explanation : '\n' ∉ metric.explanation.toList
  bars : BarsEscaped metric.name.toList

/-! ## Reading what is written -/

section
variable {metric : MetricResult}

theorem readScore?_decimal (score : UInt8) :
    readScore? (decimal score.toNat).toList = some score := by
  rw [readScore?, digitsValue?_decimal, Option.bind_some, if_pos score.toNat_lt, UInt8.ofNat_toNat]

/-- The cells of a result. -/
def metricCells (metric : MetricResult) : List (List Char) :=
  [pad metric.name.toList, pad (decimal metric.score.toNat).toList, pad metric.letter.label.toList,
    pad (replaceChar '|' ['\\', '|'] metric.explanation.toList)]

theorem toList_rowEntry (metric : MetricResult) :
    (rowEntry metric).toList = row (metricCells metric) := by
  unfold rowEntry escapeBars
  simp [row, metricCells, pad]

theorem readCells?_metricCells (metric : MetricResult) :
    readCells? (metricCells metric) = some metric := by
  simp only [metricCells, readCells?, unpad?_pad, Option.bind_some, readScore?_decimal,
    String.ofList_toList, Grade.ofLabel?_label, unescapeBars_replaceChar, Option.bind_eq_bind]
  rfl

theorem barsEscaped_metricCells (escaped : BarsEscaped metric.name.toList) :
    ∀ cell ∈ metricCells metric, BarsEscaped cell := by
  have score : '|' ∉ (decimal metric.score.toNat).toList := decimal_lacks (by decide) _
  have letter : '|' ∉ metric.letter.label.toList := by
    cases metric.letter <;> decide
  simp only [metricCells, List.forall_mem_cons, barsEscaped_pad_iff]
  exact ⟨escaped, barsEscaped_of_lacks score, barsEscaped_of_lacks letter,
    barsEscaped_replaceChar _, List.forall_mem_nil _⟩

/-- A result can be read from its row if its name has no bare bar in it. -/
theorem readRow?_rowEntry (escaped : BarsEscaped metric.name.toList) :
    readRow? (rowEntry metric) = some metric := by
  have ends : ∀ cell ∈ metricCells metric, cell.getLast? ≠ some '\\' := by
    simp only [metricCells, List.forall_mem_cons]
    exact ⟨getLast?_pad _, getLast?_pad _, getLast?_pad _, getLast?_pad _, List.forall_mem_nil _⟩
  rw [readRow?, toList_rowEntry, rowCells?_row (barsEscaped_metricCells escaped) ends,
    Option.bind_some, readCells?_metricCells]

theorem exists_cells_of_readCells? {cells : List (List Char)}
    (read : readCells? cells = some metric) :
    ∃ name notes, pad name ∈ cells ∧ pad notes ∈ cells ∧
      metric.name = String.ofList name ∧
        metric.explanation = String.ofList (unescapeBars notes) := by
  unfold readCells? at read
  split at read
  · simp only [Option.bind_eq_bind, Option.bind_eq_some_iff] at read
    obtain ⟨name, nameRead, score, -, letter, -, notes, notesRead, made⟩ := read
    rw [eq_pad_of_unpad? nameRead, eq_pad_of_unpad? notesRead, ← Option.some.inj made]
    exact ⟨name, notes, by simp, by simp, rfl, rfl⟩
  · cases read

/-- Whatever can be read from one line fits in a row. -/
theorem fitsRow_of_readRow? {line : String} (unbroken : '\n' ∉ line.toList)
    (read : readRow? line = some metric) : FitsRow metric := by
  rw [readRow?, Option.bind_eq_some_iff] at read
  obtain ⟨cells, cut, read⟩ := read
  obtain ⟨name, notes, nameCell, notesCell, nameRead, notesRead⟩ := exists_cells_of_readCells? read
  constructor
  · rw [nameRead, String.toList_ofList]
    exact fun feed => unbroken (mem_of_mem_rowCells? cut nameCell (mem_pad_of_mem feed))
  · rw [notesRead, String.toList_ofList]
    intro feed
    have shown := mem_pad_of_mem (mem_of_mem_unescapeBars feed)
    exact unbroken (mem_of_mem_rowCells? cut notesCell shown)
  · rw [nameRead, String.toList_ofList, ← barsEscaped_pad_iff]
    exact escaped_of_mem_rowCells? cut nameCell

end

/-! ## The whole table -/

section
variable {report : QualityReport}

theorem sectionUnder_tableRule (scored : report.ok = true) (filled : report.metrics ≠ [])
    (names : ∀ metric ∈ report.metrics, '\n' ∉ metric.name.toList)
    (explanations : ∀ metric ∈ report.metrics, '\n' ∉ metric.explanation.toList) :
    sectionUnder tableRule report.toMarkdown = report.metrics.map rowEntry := by
  have rows : ∀ line ∈ report.metrics.map rowEntry, IsLine line := by
    rw [List.forall_mem_map]
    exact fun metric member => isLine_rowEntry (names metric member) (explanations metric member)
  have shown : ∀ line ∈ report.metrics.map rowEntry, line ≠ "" := by
    rw [List.forall_mem_map]
    intro metric _ empty
    exact absurd (String.append_eq_empty_iff.mp empty).2 (by decide)
  rw [toMarkdown_of_ok scored filled, markdownLines]
  exact (sectionUnder_ofLines_iff (isLine_tableHead report) (by decide)
    (tableRule_notMem_tableHead report) shown (fun line member => (rows line member).closed)
    (takeWhile_ofLines_empty_cons _)).mpr fun line member => (rows line member).unbroken

end

/-- The table of any scored report with metrics has one row for each of them, from which it can be
read, if and only if no text of them breaks its row. -/
theorem readRows_toMarkdown_iff {report : QualityReport} (scored : report.ok = true)
    (filled : report.metrics ≠ []) :
    (sectionUnder tableRule report.toMarkdown).map readRow? = report.metrics.map some ↔
      ∀ metric ∈ report.metrics, FitsRow metric := by
  constructor
  · intro read metric member
    have shown : some metric ∈ (sectionUnder tableRule report.toMarkdown).map readRow? := by
      rw [read]
      exact List.mem_map_of_mem member
    obtain ⟨line, present, read⟩ := List.mem_map.mp shown
    exact fitsRow_of_readRow? (unbroken_of_mem_sectionUnder present) read
  · intro fits
    rw [sectionUnder_tableRule scored filled (fun metric member => (fits metric member).name)
      (fun metric member => (fits metric member).explanation), List.map_map]
    refine List.map_congr_left fun metric member => ?_
    rw [Function.comp_apply, readRow?_rowEntry (fits metric member).bars]

/-- The sentence has bars, with and without a backslash before them, and a backslash at its end. -/
def reportOfBars : QualityReport :=
  ⟨true, 90, .aMinus, [⟨"Defects", 90, .aMinus, "a|b \\| c\\"⟩], []⟩

theorem readRows_reportOfBars :
    reportOfBars.ok = true ∧ reportOfBars.metrics ≠ [] ∧
      (sectionUnder tableRule reportOfBars.toMarkdown).map readRow? =
        [some ⟨"Defects", 90, .aMinus, "a|b \\| c\\"⟩] := by
  have filled : reportOfBars.metrics ≠ [] := by decide
  refine ⟨rfl, filled, (readRows_toMarkdown_iff rfl filled).mpr ?_⟩
  rw [reportOfBars, List.forall_mem_singleton]
  exact ⟨by decide, by decide, by decide⟩

/-- The name has a bar, which is not escaped. -/
def reportOfBarredName : QualityReport :=
  ⟨true, 100, .aPlus, [⟨"a|b", 100, .aPlus, ""⟩], []⟩

theorem five_cells_of_barred_name :
    reportOfBarredName.ok = true ∧ reportOfBarredName.metrics ≠ [] ∧
      (sectionUnder tableRule reportOfBarredName.toMarkdown).map
          (fun line => (rowCells? line.toList).map List.length) = [some 5] ∧
      (sectionUnder tableRule reportOfBarredName.toMarkdown).map readRow? = [none] := by
  have filled : reportOfBarredName.metrics ≠ [] := by decide
  have rows : sectionUnder tableRule reportOfBarredName.toMarkdown =
      reportOfBarredName.metrics.map rowEntry := by
    apply sectionUnder_tableRule rfl filled
    · rw [reportOfBarredName, List.forall_mem_singleton]
      decide
    · rw [reportOfBarredName, List.forall_mem_singleton]
      decide
  rw [rows]
  exact ⟨rfl, filled, by decide, by decide +kernel⟩

end QualityReport
end CodeAssistant
