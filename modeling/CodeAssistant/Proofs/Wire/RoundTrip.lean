import CodeAssistant.Proofs.Wire.Quality

namespace CodeAssistant

open Json

/-!
# Written records are read back

Nine kinds of record are exchanged.  Whatever the kind, reading what is written for a record gives
the record (`RecordKind.read?_write`).  A text that is read need not look like one that is written:
its members may be in any order, further ones may stand between them, and a record may be given as
an array.  Writing it back settles all that.  The record stays the same, and the new text is its own
rewriting (`RecordKind.round_trip`).
-/

/-- The kinds of record that are exchanged. -/
inductive RecordKind where
  | metric | qualityRequest | qualityReport
  | testsRequest | testsResponse
  | documentRequest | documentResponse
  | codeRequest | codeResponse
  deriving DecidableEq

namespace RecordKind

/-- The records of a kind. -/
def Record : RecordKind → Type
  | .metric => MetricResult
  | .qualityRequest => QualityRequest
  | .qualityReport => QualityReport
  | .testsRequest => TestsRequest
  | .testsResponse => TestsResponse
  | .documentRequest => DocumentRequest
  | .documentResponse => DocumentResponse
  | .codeRequest => CodeRequest
  | .codeResponse => CodeResponse

def toJson : (kind : RecordKind) → kind.Record → Json
  | .metric => MetricResult.toJson
  | .qualityRequest => QualityRequest.toJson
  | .qualityReport => QualityReport.toJson
  | .testsRequest => TestsRequest.toJson
  | .testsResponse => TestsResponse.toJson
  | .documentRequest => DocumentRequest.toJson
  | .documentResponse => DocumentResponse.toJson
  | .codeRequest => CodeRequest.toJson
  | .codeResponse => CodeResponse.toJson

def ofJson? : (kind : RecordKind) → Json → Option kind.Record
  | .metric => MetricResult.ofJson?
  | .qualityRequest => QualityRequest.ofJson?
  | .qualityReport => QualityReport.ofJson?
  | .testsRequest => TestsRequest.ofJson?
  | .testsResponse => TestsResponse.ofJson?
  | .documentRequest => DocumentRequest.ofJson?
  | .documentResponse => DocumentResponse.ofJson?
  | .codeRequest => CodeRequest.ofJson?
  | .codeResponse => CodeResponse.ofJson?

variable (kind : RecordKind)

/-- The text that is written for a record, in the readable form. -/
def write (record : kind.Record) : String :=
  (kind.toJson record).pretty

/-- The record that a text spells. -/
def read? (text : String) : Option kind.Record :=
  (parse? text).bind kind.ofJson?

/-- The text that is written for the record that a text spells. -/
def rewrite? (text : String) : Option String :=
  (kind.read? text).map kind.write

theorem legible_toJson (record : kind.Record) : (kind.toJson record).Legible := by
  cases kind with
  | metric => exact MetricResult.legible_toJson record
  | qualityRequest => exact QualityRequest.legible_toJson record
  | qualityReport => exact QualityReport.legible_toJson record
  | testsRequest => exact TestsRequest.legible_toJson record
  | testsResponse => exact TestsResponse.legible_toJson record
  | documentRequest => exact DocumentRequest.legible_toJson record
  | documentResponse => exact DocumentResponse.legible_toJson record
  | codeRequest => exact CodeRequest.legible_toJson record
  | codeResponse => exact CodeResponse.legible_toJson record

theorem ofJson?_toJson (record : kind.Record) : kind.ofJson? (kind.toJson record) = some record := by
  cases kind with
  | metric => exact MetricResult.ofJson?_toJson record
  | qualityRequest => exact QualityRequest.ofJson?_toJson record
  | qualityReport => exact QualityReport.ofJson?_toJson record
  | testsRequest => exact TestsRequest.ofJson?_toJson record
  | testsResponse => exact TestsResponse.ofJson?_toJson record
  | documentRequest => exact DocumentRequest.ofJson?_toJson record
  | documentResponse => exact DocumentResponse.ofJson?_toJson record
  | codeRequest => exact CodeRequest.ofJson?_toJson record
  | codeResponse => exact CodeResponse.ofJson?_toJson record

theorem read?_write (record : kind.Record) : kind.read? (kind.write record) = some record := by
  rw [read?, write, parse?_pretty (kind.legible_toJson record), Option.bind_some,
    ofJson?_toJson]

theorem read?_compact (record : kind.Record) :
    kind.read? (kind.toJson record).compact = some record := by
  rw [read?, parse?_compact (kind.legible_toJson record), Option.bind_some, ofJson?_toJson]

theorem rewrite?_write (record : kind.Record) :
    kind.rewrite? (kind.write record) = some (kind.write record) := by
  rw [rewrite?, read?_write, Option.map_some]

/-- Every record is read back from its text.  Hence a text that is accepted may be replaced by the
text of its record: that is accepted as well, spells the same record and is not changed again. -/
theorem round_trip :
    (∀ record, kind.read? (kind.write record) = some record) ∧
      ∀ text, (kind.rewrite? text).bind kind.read? = kind.read? text ∧
        (kind.rewrite? text).bind kind.rewrite? = kind.rewrite? text := by
  refine ⟨kind.read?_write, fun text => ?_⟩
  rw [rewrite?]
  cases kind.read? text with
  | none => exact ⟨rfl, rfl⟩
  | some record =>
    rw [Option.map_some, Option.bind_some, Option.bind_some]
    exact ⟨kind.read?_write record, kind.rewrite?_write record⟩

end RecordKind

end CodeAssistant
