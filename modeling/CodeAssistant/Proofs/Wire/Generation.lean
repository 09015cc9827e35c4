import CodeAssistant.Proofs.Json.Reading
import CodeAssistant.Proofs.Json.Records
import CodeAssistant.Wire.Generation

namespace CodeAssistant

/-!
# Generation records on the wire

The record that is decoded is the one that was encoded (`ofJson?_toJson`), and an encoded record is
legible (`legible_toJson`), so nothing is lost when it is sent as text.
-/

open Json

theorem Json.list?_texts (items : List String) : list? text? (.texts items) = some items := by
  have inverse (text : String) : text? (.string text) = some text := rfl
  exact mapM_map inverse items

theorem Json.list?_texts_bind (items : List String) (next : List String → Option α) :
    (list? text? (.texts items)).bind next = next items := by
  rw [list?_texts, Option.bind_some]

/-- An object is legible when the values of its members are. -/
theorem Json.Legible.object_cons {key : String} {value : Json} {members : List (String × Json)}
    (first : value.Legible) (others : Legible (.object members)) :
    Legible (.object ((key, value) :: members)) := by
  cases others with
  | object inside => exact .object (List.forall_mem_cons.mpr ⟨first, inside⟩)

theorem Json.Legible.object_nil : Legible (.object []) :=
  .object fun _ mem => absurd mem List.not_mem_nil

/-! ## Requests -/

theorem CodeRequest.legible_toJson (request : CodeRequest) : request.toJson.Legible := by
  exact .object_cons (.string _) (.object_cons (.string _) .object_nil)

theorem CodeRequest.ofJson?_toJson (request : CodeRequest) :
    ofJson? request.toJson = some request := rfl

theorem TestsRequest.legible_toJson (request : TestsRequest) : request.toJson.Legible := by
  exact .object_cons (.string _) (.object_cons (.string _) (.object_cons (.string _) .object_nil))

theorem TestsRequest.ofJson?_toJson (request : TestsRequest) :
    ofJson? request.toJson = some request := rfl

theorem DocumentRequest.legible_toJson (request : DocumentRequest) : request.toJson.Legible := by
  refine .object_cons (.string _) (.object_cons ?_ (.object_cons ?_ .object_nil))
  · exact .textOrNull request.language
  · exact .textOrNull request.projectName

theorem DocumentRequest.ofJson?_toJson (request : DocumentRequest) :
    ofJson? request.toJson = some request := by
  rcases request with ⟨code, language, projectName⟩
  cases language with
  | none => cases projectName <;> rfl
  | some language => cases projectName <;> rfl

/-! ## Responses -/

theorem CodeResponse.legible_toJson (response : CodeResponse) : response.toJson.Legible := by
  refine .object_cons (.bool _) (.object_cons (.string _) (.object_cons (.string _)
    (.object_cons (.string _) (.object_cons ?_ .object_nil))))
  exact .texts response.notes

theorem CodeResponse.ofJson?_toJson (response : CodeResponse) :
    ofJson? response.toJson = some response := by
  let noted (notes : List String) : CodeResponse := { response with notes := notes }
  exact list?_texts_bind response.notes fun notes => some (noted notes)

theorem TestsResponse.legible_toJson (response : TestsResponse) : response.toJson.Legible := by
  refine .object_cons (.bool _) (.object_cons (.string _) (.object_cons (.string _)
    (.object_cons (.string _) (.object_cons ?_ .object_nil))))
  exact .texts response.notes

theorem TestsResponse.ofJson?_toJson (response : TestsResponse) :
    ofJson? response.toJson = some response := by
  let noted (notes : List String) : TestsResponse := { response with notes := notes }
  exact list?_texts_bind response.notes fun notes => some (noted notes)

theorem DocumentResponse.legible_toJson (response : DocumentResponse) :
    response.toJson.Legible := by
  refine .object_cons (.bool _) (.object_cons (.string _) (.object_cons (.string _)
    (.object_cons ?_ .object_nil)))
  exact .texts response.notes

theorem DocumentResponse.ofJson?_toJson (response : DocumentResponse) :
    ofJson? response.toJson = some response := by
  let noted (notes : List String) : DocumentResponse := { response with notes := notes }
  exact list?_texts_bind response.notes fun notes => some (noted notes)

end CodeAssistant
