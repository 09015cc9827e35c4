import CodeAssistant.Command.Errand
import CodeAssistant.Proofs.Command.Agreement
import CodeAssistant.Proofs.Http.Url
import CodeAssistant.Proofs.Service.Offline
import CodeAssistant.Proofs.Wire.Generation

namespace CodeAssistant

/-!
# Errands without a generator

An errand is done by a server or on the spot.  If the server is a service without a generator, the
response is the same (`Client.agree_fulfil`): the request is decoded as the task that it was made
from, the task is done as it is done on the spot, and the response is decoded as the one that was
made.  Where no server is asked, time has an effect on nothing but the name of a document.
-/

/-- The errand is a task of the service.  It survives the way there, and the response survives the
way back. -/
structure Errand.Transmits (errand : Errand ρ) (task : Instant → Task) (form : ρ → TaskResponse) :
    Prop where
  sent : errand.body.Legible
  received (now : Instant) : errand.kind.decode? now errand.body = some (task now)
  done (model : String) (now : Instant) : (task now).consult model =
    (errand.consult model now).bind fun response => .done (form response)
  returned (response : ρ) : (form response).toJson.Legible
  read (response : ρ) : errand.decode? (form response).toJson = some response

theorem CodeRequest.transmits_errand (request : CodeRequest) :
    request.errand.Transmits (fun _ => .code request) .code where
  sent := request.legible_toJson
  received _ := rfl
  done _ _ := by dsimp only [Task.consult, errand]
  returned := CodeResponse.legible_toJson
  read := CodeResponse.ofJson?_toJson

theorem TestsRequest.transmits_errand (request : TestsRequest) :
    request.errand.Transmits (fun _ => .tests request) .tests where
  sent := request.legible_toJson
  received _ := rfl
  done _ _ := by dsimp only [Task.consult, errand]
  returned := TestsResponse.legible_toJson
  read := TestsResponse.ofJson?_toJson

theorem DocumentRequest.transmits_errand (request : DocumentRequest) :
    request.errand.Transmits (fun now => .document request now) .document where
  sent := request.legible_toJson
  received now :=
    congrArg (Option.map fun request => Task.document request now) request.ofJson?_toJson
  done _ _ := by dsimp only [Task.consult, errand]
  returned := DocumentResponse.legible_toJson
  read := DocumentResponse.ofJson?_toJson

/-- The response to an errand that is done without a generator. -/
def Errand.unaided (errand : Errand ρ) (now : Instant) : ρ :=
  (Generator.offline.consult (errand.consult Client.offlineModel now) []).1

/-- A service without a generator responds to an errand as it is done on the spot. -/
theorem Errand.Transmits.unaided_eq {errand : Errand ρ} {task : Instant → Task}
    {form : ρ → TaskResponse} (transmits : errand.Transmits task form) (now : Instant) :
    (Dialogue.trace Generator.offline.reply [] ((task now).consult Client.offlineModel)).1 =
      form (errand.unaided now) := by
  rw [transmits.done, Dialogue.trace_bind_done, Errand.unaided, Generator.consult_eq]

/-- The address, as a command gives it, is one below which all paths of a service are found. -/
def LeadsToService (urls : Http.UrlReader) (url : String) : Prop :=
  ∃ base, Client.baseUrl? url = some base ∧ ∀ kind : TaskKind, ∃ address,
    urls.parse? (base ++ kind.path) = some address ∧ address.path = kind.path

theorem TaskKind.path_isPlain (kind : TaskKind) :
    ∃ rest, kind.path.toList = '/' :: rest ∧ (∀ c ∈ rest, Http.Url.IsPlain c) ∧
      Http.Url.normalPath ('/' :: rest) = kind.path := by
  have plain {rest : List Char} (all : (rest.all fun c => decide (Http.Url.IsPlain c)) = true) :
      ∀ c ∈ rest, Http.Url.IsPlain c := by
    intro c mem
    exact of_decide_eq_true (List.all_eq_true.mp all c mem)
  cases kind with
  | code => exact ⟨_, rfl, plain (by decide), by decide⟩
  | tests => exact ⟨_, rfl, plain (by decide), by decide⟩
  | document => exact ⟨_, rfl, plain (by decide), by decide⟩
  | quality => exact ⟨_, rfl, plain (by decide), by decide⟩

/-- The address of a server leads to a service on it, in whatever form the address is given. -/
theorem leadsToService_of_server {url authority : String} {scheme server : List Char}
    (known : scheme = ['h', 't', 't', 'p'] ∨ scheme = ['h', 't', 't', 'p', 's'])
    (plain : ∀ c ∈ server, Http.Url.IsPlain c ∧ Http.Url.isSlash c = false)
    (read : Http.Url.authority? (String.ofList scheme) server = some authority)
    (base : Client.baseUrl? url = some (String.ofList (scheme ++ ':' :: '/' :: '/' :: server))) :
    LeadsToService .standard url := by
  refine ⟨_, base, ?_⟩
  intro kind
  rcases kind.path_isPlain with ⟨rest, spelled, plainPath, normal⟩
  have joined : String.ofList (scheme ++ ':' :: '/' :: '/' :: server) ++ kind.path =
      String.ofList (scheme ++ ':' :: '/' :: '/' :: (server ++ '/' :: rest)) := by
    rw [← String.toList_inj, String.toList_append, String.toList_ofList, String.toList_ofList,
      spelled]
    simp
  rw [joined]
  exact ⟨_, Http.Url.parse?_of_parts known plain plainPath read, normal⟩

theorem leadsToService_default : LeadsToService .standard defaultServerUrl := by
  have plain : ("127.0.0.1:8000".toList.all fun c =>
      decide (Http.Url.IsPlain c) && !Http.Url.isSlash c) = true := by decide
  simp only [List.all_eq_true, Bool.and_eq_true, decide_eq_true_eq, Bool.not_eq_true'] at plain
  have read : Http.Url.authority? "http" "127.0.0.1:8000".toList = some "127.0.0.1:8000" := by
    decide
  exact leadsToService_of_server (Or.inl rfl) plain read (by decide)

namespace Client

variable {urls : Http.UrlReader} {here there : Outside} {errand : Errand ρ}

theorem perform_fulfil_offline (urls : Http.UrlReader) (outside : Outside) (errand : Errand ρ)
    (state : Surroundings) :
    outside.perform (Client.offline.fulfil urls errand) state =
      (.ok (errand.unaided outside.clock), state) := rfl

theorem responseOf_compact {decode : Json → Option ρ} {value : Json} {response : ρ}
    (legible : value.Legible) (read : decode value = some response) :
    responseOf decode (.answered ⟨200, value.compact⟩) = .ok response := by
  have contents : Http.Answer.decode? decode ⟨200, value.compact⟩ = some response := by
    have content : Http.Answer.content ⟨200, value.compact⟩ = value.compact := rfl
    rw [Http.Answer.decode?, content, Json.parse?_compact legible, Option.bind_some, read]
  have successful : Http.isFault 200 = false := rfl
  rw [responseOf, successful, if_neg (by decide), contents]

/-- A service without a generator makes the response that is made on the spot. -/
theorem agree_fulfil {task : Instant → Task} {form : ρ → TaskResponse}
    (transmits : errand.Transmits task form) {framework : Framework} {service : Service}
    (offline : service.backend.provider = .offline) {backend : Http.Server}
    (served : here.server = service.asServer framework urls backend there.clock)
    {base : String} {address : Http.Url}
    (parsed : urls.parse? (base ++ errand.kind.path) = some address)
    (path : address.path = errand.kind.path)
    (fits : errand.body.compact.utf8ByteSize ≤ maxContentBytes) :
    Work.Agree here there Eq ((Client.remote base).fulfil urls errand)
      (Client.offline.fulfil urls errand) := by
  intro state other alike
  rw [Work.AgreeFrom, perform_fulfil_offline, Client.fulfil, parsed]
  dsimp only
  rw [Outside.perform_bind, Outside.perform_act]
  dsimp only [Surroundings.react]
  have answered (post : Http.Post) (reaches : post.url = address)
      (carries : post.body = errand.body) :
      here.server state.sent post =
        .answered ⟨200, (form (errand.unaided there.clock)).toJson.compact⟩ := by
    subst reaches
    rw [← carries] at fits
    have legible := transmits.sent
    have received := transmits.received there.clock
    rw [← carries] at legible received
    rw [served, Service.asServer_offline framework urls offline backend there.clock state.sent path
      legible fits received offlineModel, transmits.unaided_eq]
  rw [Outside.perform_ofExcept, answered _ rfl rfl,
    responseOf_compact (transmits.returned _) (transmits.read _)]
  exact ⟨.ok rfl, ⟨alike.files, alike.printed, alike.noted⟩⟩

theorem agree_fulfil_offline {R : ρ → ρ → Prop}
    (related : R (errand.unaided here.clock) (errand.unaided there.clock)) :
    Work.Agree here there R (Client.offline.fulfil urls errand)
      (Client.offline.fulfil urls errand) := by
  intro state other alike
  rw [Work.AgreeFrom, perform_fulfil_offline, perform_fulfil_offline]
  exact ⟨.ok related, alike⟩

theorem agree_showNotes (notes : List String) :
    Work.Agree here there Eq (showNotes notes) (showNotes notes) := by
  induction notes with
  | nil => exact Work.agree_pure rfl
  | cons note rest ih =>
    exact (Work.agree_act (.note _) trivial).bind fun _ _ _ => ih

/-- Errands whose responses agree in the flag and the remarks are settled alike. -/
theorem agree_obtain {client client' : Client} {R : ρ → ρ → Prop}
    (fulfilled : Work.Agree here there R (client.fulfil urls errand) (client'.fulfil urls errand))
    (same : ∀ response response', R response response' →
      errand.ok response = errand.ok response' ∧ errand.notes response = errand.notes response') :
    Work.Agree here there
      (fun response response' => R response response' ∧ errand.ok response = true)
      (client.obtain urls errand) (client'.obtain urls errand) := by
  apply fulfilled.bind
  intro response response' related
  rcases same response response' related with ⟨flag, notes⟩
  rw [← flag, ← notes]
  by_cases usable : errand.ok response = true
  · rw [if_pos usable, if_pos usable]
    exact (agree_showNotes _).bind fun _ _ _ => Work.agree_pure ⟨related, usable⟩
  · rw [if_neg usable, if_neg usable]
    exact Work.agree_throw _ _

end Client

/-! ## The clock -/

theorem CodeRequest.unaided_errand (request : CodeRequest) (now now' : Instant) :
    request.errand.unaided now = request.errand.unaided now' := by
  simp only [Errand.unaided, errand]

theorem TestsRequest.unaided_errand (request : TestsRequest) (now now' : Instant) :
    request.errand.unaided now = request.errand.unaided now' := by
  simp only [Errand.unaided, errand]

/-- Time has an effect on nothing but the suggested name, and only if there is a document. -/
theorem DocumentRequest.unaided_errand (request : DocumentRequest) :
    ∃ ok content notes, ∀ now, request.errand.unaided now =
      ⟨ok, if ok then documentFilename (labelOr "Proyecto Atum" request.projectName) now else "",
        content, notes⟩ := by
  have traced (now : Instant) : request.errand.unaided now =
      (Dialogue.trace Generator.offline.reply []
        (request.consult Client.offlineModel now)).1 := by
    simp only [Errand.unaided, errand, Generator.consult_eq]
  have named : request.projectLabel = labelOr "Proyecto Atum" request.projectName :=
    getD_bind_nonBlank? _ _
  simp only [traced, DocumentRequest.consult, draft_bind_done]
  cases request.missing? with
  | some field => exact ⟨false, "", [field.message], fun now => rfl⟩
  | none =>
    refine ⟨true, request.fallback, [GeneratorError.note .offline], ?_⟩
    intro now
    rw [if_pos rfl, ← named]
    rfl

end CodeAssistant
