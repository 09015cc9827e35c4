import CodeAssistant.Proofs.Command.Receipts
import CodeAssistant.Proofs.Generation.FileNames

namespace CodeAssistant

/-!
# Where documents are written

A document that is made without a server, and for which no path is given, is written under the name
that is suggested for it.  That name is a name whatever the project is called, so as a path it is a
single step, and the document is put into the directory where relative paths start.
-/

/-! ## Names as paths -/

namespace Text

theorem piecesFrom_of_not_mem {separator : Char} {text : List Char} (lacks : separator ∉ text)
    (piece : List Char) : piecesFrom separator piece text = [piece.reverse ++ text] := by
  induction text generalizing piece with
  | nil => rw [piecesFrom, List.append_nil]
  | cons c rest ih =>
    rw [List.mem_cons, not_or] at lacks
    rw [piecesFrom, if_neg (Ne.symm lacks.1), ih lacks.2, List.reverse_cons, List.append_assoc,
      List.singleton_append]

/-- A text without separators is a single piece. -/
theorem pieces_of_not_mem {separator : Char} {text : List Char} (lacks : separator ∉ text) :
    pieces separator text = [text] :=
  piecesFrom_of_not_mem lacks []

end Text

namespace IsDocumentName

variable {name : String}

theorem isAbsolute_eq_false (proper : IsDocumentName name) : Path.isAbsolute ⟨name⟩ = false := by
  rw [Path.isAbsolute, beq_eq_false_iff_ne]
  intro leading
  exact proper.slash (List.mem_of_head? leading)

theorem endsInSlash_eq_false (proper : IsDocumentName name) :
    Path.endsInSlash ⟨name⟩ = false := by
  rw [Path.endsInSlash, beq_eq_false_iff_ne]
  intro trailing
  exact proper.slash (List.mem_of_getLast? trailing)

theorem stepOf?_eq (proper : IsDocumentName name) :
    Path.stepOf? name.toList = some (.name name) := by
  unfold Path.stepOf?
  split
  · next empty =>
    have dot : '.' ∈ name.toList := proper.extension.subset (by decide)
    rw [empty] at dot
    cases dot
  · next single => exact absurd (String.toList_inj.mp single) proper.notHere
  · next double => exact absurd (String.toList_inj.mp double) proper.notUp
  · rw [String.ofList_toList]

theorem steps_eq (proper : IsDocumentName name) : Path.steps ⟨name⟩ = [.name name] := by
  rw [Path.steps, Text.pieces_of_not_mem proper.slash, proper.endsInSlash_eq_false,
    List.filterMap_cons_some proper.stepOf?_eq]
  rfl

end IsDocumentName

/-! ## Documents without a server -/

/-- A usable document that is made on the spot has a proper name. -/
theorem DocumentRequest.isDocumentName_unaided {request : DocumentRequest} {now : Instant}
    (usable : (request.errand.unaided now).ok = true) :
    IsDocumentName (request.errand.unaided now).filename := by
  rcases request.unaided_errand with ⟨ok, content, notes, made⟩
  rw [made] at usable ⊢
  dsimp only at usable ⊢
  rw [if_pos usable]
  exact isDocumentName_documentFilename _ now

theorem DocumentRequest.unaided_eq (request : DocumentRequest) (now : Instant) :
    request.errand.unaided now =
      (Generator.offline.consult (request.consult "offline" now) []).1 := by
  simp only [Errand.unaided, errand, Client.offlineModel]

/-- If a document is made without a server, no path is given for it and the command succeeds, then
the file with the suggested name in the current directory has the contents of the document, and
every other place is as it was.  The suggested name is one name, whatever the project is called. -/
theorem runProgram_offline_document (urls : Http.UrlReader) {environment : Environment}
    {arguments : List String} {file : Path} {language projectName : Option String}
    (read : Command.ofArguments? environment arguments =
      some (.docs file language projectName none .offline))
    (outside : Outside) (files : FileSystem) :
    let outcome := Surroundings.conduct outside.server outside.clock
      (runProgram urls environment arguments) (.initial files)
    outcome.1.exitStatus = 0 →
      ∃ code response, files.text? file = some code ∧
        response = (Generator.offline.consult (DocumentRequest.consult "offline" outside.clock
          ⟨code, language.or file.language?, projectName⟩) []).1 ∧
        response.ok = true ∧ IsDocumentName response.filename ∧
        outcome.2.files = files.put (files.current ++ [response.filename])
          (.file response.content.toUTF8) ∧
        ∀ place, outcome.2.files.node? place =
          if place = files.current ++ [response.filename] then
            some (.file response.content.toUTF8)
          else files.node? place := by
  intro outcome successful
  have concluded : Concluded files (Command.Receives urls outside files
      (.docs file language projectName none .offline)) _ :=
    Command.concluded_run rfl
  have same : outcome = _ := conduct_runProgram urls read outside (.initial files)
  generalize outside.perform ((Command.docs file language projectName none .offline).run urls)
    (.initial files) = ending at same concluded
  rw [same, Ending.exitStatus_ofResult_eq_zero_iff] at successful
  rw [same]
  cases concluded with
  | unwritten got usable unwritable => cases successful
  | refused got unusable unmarked => cases successful
  | failed nothing unmarked => cases successful
  | delivered got usable left printed =>
    cases got with
    | @docs _ _ _ _ code _ response readable gets =>
      have usable : response.ok = true := usable
      have proper : IsDocumentName response.filename := by
        have ok := usable
        rw [gets.eq_unaided] at ok ⊢
        exact DocumentRequest.isDocumentName_unaided ok
      have put := FileSystem.write_name proper.isAbsolute_eq_false proper.steps_eq left
      have below : files.current ++ [response.filename] ≠ [] :=
        List.append_ne_nil_of_right_ne_nil _ (List.cons_ne_nil _ _)
      have made := gets.eq_unaided
      rw [DocumentRequest.unaided_eq] at made
      refine ⟨code, response, readable, made, usable, proper, put, ?_⟩
      intro place
      rw [put, FileSystem.node?_put _ below]

theorem runProgram_offline_document_contained :
    let files : FileSystem :=
      ⟨[(["home"], .directory), (["home", "main.py"], .file "print(1)\n".toUTF8)], ["home"]⟩
    let outside : Outside := ⟨fun _ _ => .hangUp, .epoch⟩
    let outcome := Surroundings.conduct outside.server outside.clock
      (runProgram .standard .empty
        ["docs", "--offline", "--file", "main.py", "--project-name", "../..\\/\x00.\u212a"])
      (.initial files)
    outcome.1.exitStatus = 0 ∧ ∃ name contents, IsDocumentName name ∧
      outcome.2.files = files.put (files.current ++ [name]) (.file contents) := by
  intro files outside outcome
  have read : Command.ofArguments? .empty
      ["docs", "--offline", "--file", "main.py", "--project-name", "../..\\/\x00.\u212a"] =
        some (.docs ⟨"main.py"⟩ none (some "../..\\/\x00.\u212a") none .offline) := by
    decide
  have successful : outcome.1.exitStatus = 0 := by decide +kernel
  rcases runProgram_offline_document .standard read outside files successful with
    ⟨code, response, -, -, -, proper, put, -⟩
  refine ⟨successful, response.filename, response.content.toUTF8, proper, ?_⟩
  rw [put]

end CodeAssistant
