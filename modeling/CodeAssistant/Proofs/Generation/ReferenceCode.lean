import CodeAssistant.Generation.DocumentOutline
import CodeAssistant.Proofs.Text.Fences
import CodeAssistant.Proofs.Text.Sections

namespace CodeAssistant

/-!
# Reading back the code that an outline quotes

An outline quotes the beginning of the code between two fences of three backticks, and the names of
the project and of the language go into the lines above as they are.  Two things can be in the way of
reading the quoted lines back: one of them is itself a fence, or the names bring a heading and a fence
of their own.  There is nothing else (`codeBlockUnder?_fallbackDocument_iff`).
-/

open Text

/-! ## Marks -/

/-- The heading of the quoted code. -/
def referenceHeading : String := "### Reference code"

/-- Whether the line counts in the search for the quoted code. -/
def isMark (line : List Char) : Bool :=
  line == referenceHeading.toList || isFence line

/-- Some characters that are in no mark.  Nearly every line of an outline has one of them in each of
its fixed parts. -/
def isForeign (c : Char) : Bool :=
  c == '.' || c == '"' || c == 'p' || c == 's'

theorem isMark_of_foreign {line : List Char} (shown : line.any isForeign = true) :
    isMark line = false := by
  have outside : referenceHeading.toList.all (fun c => !isForeign c) = true := by decide
  obtain ⟨c, member, foreign⟩ := List.any_eq_true.mp shown
  rw [isMark, Bool.or_eq_false_iff, beq_eq_false_iff_ne, Bool.eq_false_iff]
  constructor
  · intro same
    rw [same] at member
    have heading := List.all_eq_true.mp outside c member
    rw [foreign] at heading
    cases heading
  · intro fence
    have plain : ¬(c = '\x60' ∨ trailsFence c = true) := by
      simp only [isForeign, Bool.or_eq_true, beq_iff_eq] at foreign
      rcases foreign with ((rfl | rfl) | rfl) | rfl <;> decide
    exact plain (tick_or_trails_of_isFence fence c member)

/-- Other lines have no influence on whether a block is opened. -/
theorem opensUnder_filter (lines : List (List Char)) :
    OpensUnder referenceHeading (lines.filter isMark) ↔ OpensUnder referenceHeading lines := by
  induction lines with
  | nil => rfl
  | cons line lines ih =>
    by_cases same : line = referenceHeading.toList
    · have mark : isMark line = true := by simp [isMark, same]
      rw [List.filter_cons_of_pos mark, OpensUnder, OpensUnder, under_of_eq same, under_of_eq same]
      refine exists_congr fun found => ?_
      rw [List.mem_filter, and_assoc, isMark]
      refine and_congr_right fun _ => and_iff_right_of_imp fun fence => ?_
      rw [fence, Bool.or_true]
    · have passed : OpensUnder referenceHeading (line :: lines) ↔
          OpensUnder referenceHeading lines := by
        rw [OpensUnder, OpensUnder, under_of_ne same]
      rw [passed, ← ih]
      by_cases mark : isMark line = true
      · rw [List.filter_cons_of_pos mark, OpensUnder, under_of_ne same, ← OpensUnder]
      · rw [List.filter_cons_of_neg mark]

/-! ## Names inside lines -/

/-- The lines of a text that are lines of their own when it is put into a line: all but the first
and the last. -/
def innerLines (s : String) : List (List Char) :=
  (feedLines s).tail.dropLast

/-- The marks among the lines of a text. -/
def marks (s : String) : List (List Char) :=
  (feedLines s).filter isMark

/-- The marks among the lines of a text from the second one on. -/
def laterMarks (s : String) : List (List Char) :=
  (feedLines s).tail.filter isMark

/-- Whether the characters are all in one line, and this line cannot be a mark. -/
def isFrame (cs : List Char) : Bool :=
  !cs.contains '\n' && cs.any isForeign

variable {frame start between stop rest : String}

theorem unbroken_of_isFrame (framed : isFrame frame.toList = true) : '\n' ∉ frame.toList := by
  rw [isFrame, Bool.and_eq_true] at framed
  simpa using framed.1

theorem marks_frame_append (framed : isFrame frame.toList = true) (text : String) :
    marks (frame ++ text) = laterMarks text := by
  obtain ⟨more, rows⟩ := feedLines_of_unbroken_append (unbroken_of_isFrame framed) text
  rw [isFrame, Bool.and_eq_true] at framed
  have other : ¬isMark (frame.toList ++ more) = true := by
    rw [Bool.not_eq_true]
    apply isMark_of_foreign
    rw [List.any_append, framed.2, Bool.true_or]
  rw [marks, rows, List.filter_cons_of_neg other, laterMarks]

/-- A name that ends inside a line brings its inner lines. -/
theorem laterMarks_append_frame (framed : isFrame frame.toList = true) (name text : String) :
    laterMarks (name ++ (frame ++ text)) =
      (innerLines name).filter isMark ++ laterMarks text := by
  have oneLine := unbroken_of_isFrame framed
  by_cases broken : '\n' ∈ name.toList
  · obtain ⟨before, last, split, unbroken⟩ := exists_last_line broken
    have lines : feedLines before ≠ [] := List.splitOn_ne_nil '\n' _
    have inner : innerLines name = (feedLines before).tail := by
      rw [innerLines, split, feedLines_append, feedLines_of_not_mem unbroken,
        List.tail_append_of_ne_nil lines, List.dropLast_concat]
    have framedLast : isFrame (last ++ frame).toList = true := by
      rw [isFrame, Bool.and_eq_true] at framed ⊢
      rw [String.toList_append, List.any_append, framed.2, Bool.or_true]
      exact ⟨by simpa using ⟨unbroken, oneLine⟩, rfl⟩
    rw [inner, ← marks_frame_append framedLast text, split, String.append_assoc, laterMarks,
      feedLines_append, List.tail_append_of_ne_nil lines, List.filter_append, marks,
      String.append_assoc]
  · have whole : innerLines name = [] := by rw [innerLines, feedLines_of_not_mem broken]; rfl
    have unbroken : '\n' ∉ (name ++ frame).toList := by
      rw [String.toList_append, List.mem_append]
      exact fun member => member.elim broken oneLine
    obtain ⟨more, rows⟩ := feedLines_of_unbroken_append unbroken text
    rw [whole, ← String.append_assoc, laterMarks, rows, List.tail_cons, ← laterMarks]
    rfl

theorem laterMarks_of_unbroken (unbroken : '\n' ∉ rest.toList) : laterMarks rest = [] := by
  rw [laterMarks, feedLines_of_not_mem unbroken]
  rfl

/-! ## The lines of an outline -/

/-- A line without names. -/
theorem marks_of_frame (framed : isFrame frame.toList = true) : marks frame = [] := by
  have nothing : laterMarks "" = [] := laterMarks_of_unbroken (by simp)
  rw [← @String.append_empty frame, marks_frame_append framed, nothing]

/-- A line with a name in it. -/
theorem marks_of_name (starts : isFrame start.toList = true) (stops : isFrame stop.toList = true)
    (name : String) : marks (start ++ name ++ stop) = (innerLines name).filter isMark := by
  have nothing : laterMarks "" = [] := laterMarks_of_unbroken (by simp)
  rw [← @String.append_empty stop, String.append_assoc, marks_frame_append starts,
    laterMarks_append_frame stops, nothing, List.append_nil]

/-- A line with two names in it, and with some more text at its end. -/
theorem marks_of_two_names (starts : isFrame start.toList = true)
    (parts : isFrame between.toList = true) (stops : isFrame stop.toList = true)
    (ends : isFrame rest.toList = true) (first second : String) :
    marks (start ++ first ++ between ++ second ++ stop ++ rest) =
      (innerLines first).filter isMark ++ (innerLines second).filter isMark := by
  rw [String.append_assoc, String.append_assoc, String.append_assoc, String.append_assoc,
    marks_frame_append starts, laterMarks_append_frame parts, laterMarks_append_frame stops,
    laterMarks_of_unbroken (unbroken_of_isFrame ends), List.append_nil]

/-- Two characters are too few for a mark between two line feeds. -/
theorem innerMarks_of_short {s : String} (short : s.toList.length ≤ 2) :
    (innerLines s).filter isMark = [] := by
  have empty : isMark [] = false := by decide
  rw [innerLines, feedLines]
  generalize s.toList = cs at short
  rcases cs with _ | ⟨c, _ | ⟨d, _ | ⟨e, cs⟩⟩⟩
  · rfl
  · by_cases feed : c = '\n' <;> simp [List.splitOn_cons_eq_if_modifyHead, feed]
  · by_cases feed : c = '\n' <;> by_cases next : d = '\n' <;>
      simp [List.splitOn_cons_eq_if_modifyHead, feed, next, empty]
  · simp at short

theorem feedLines_ofLines (lines : List String) :
    feedLines (Prompt.ofLines lines) = lines.flatMap feedLines ++ [[]] := by
  induction lines with
  | nil => rfl
  | cons line lines ih =>
    rw [Prompt.ofLines_cons, feedLines_append, ih, List.flatMap_cons, List.append_assoc]

/-- The lines that the names bring into an outline.  The name of the project stands in one line of it,
and that of the language in three. -/
def namedLines (language projectName : String) : List (List Char) :=
  innerLines projectName ++
    (innerLines language ++ (innerLines language ++ innerLines language))

/-- The lines above the quoted code have no marks but those of the names. -/
theorem exists_outline_header (code language projectName : String) :
    ∃ header : List String,
      fallbackDocument code language projectName = Prompt.ofLines (header ++
        [referenceHeading, "```", join "\n" (quotedLines code), "```"]) ∧
      header.flatMap marks = (namedLines language projectName).filter isMark := by
  have extension : (innerLines (String.ofList (language.toList.take 2))).filter isMark = [] :=
    innerMarks_of_short (by rw [String.toList_ofList]; exact List.length_take_le 2 _)
  have blank : marks "" = [] := rfl
  have rule : marks "---" = [] := by decide
  -- One hole for each line of the header.  Whether a fixed part of a line is a frame is decided.
  refine ⟨[_, _, _, _, _, _, _, _, _, _, _, _, _, _, _, _, _, _, _, _], rfl, ?_⟩
  rw [namedLines, List.filter_append, List.filter_append, List.filter_append]
  simp (disch := (rw [String.toList_ofList]; decide +kernel)) only [List.flatMap_cons,
    List.flatMap_nil, blank, rule, marks_of_frame, marks_of_name, marks_of_two_names, extension,
    List.nil_append, List.append_nil, List.append_assoc]

/-! ## The quoted lines -/

theorem unbroken_of_mem_quotedLines {code line : String} (member : line ∈ quotedLines code) :
    '\n' ∉ line.toList :=
  unbroken_of_mem_newlineLines (List.mem_of_mem_take member)

/-- Quoted code has the quoted lines, or one empty line if there are none, which is no fence. -/
theorem forall_feedLines_quoted (code : String) :
    (∀ line ∈ feedLines (join "\n" (quotedLines code)), isFence line = false) ↔
      ∀ line ∈ quotedLines code, isFence line.toList = false := by
  by_cases nothing : quotedLines code = []
  · have single : feedLines (join "\n" []) = [[]] := rfl
    rw [nothing, single, List.forall_mem_singleton]
    exact iff_of_true rfl (by simp)
  · rw [feedLines_join (fun line => unbroken_of_mem_quotedLines) nothing, List.forall_mem_map]

/-! ## The whole outline -/

theorem fenceLength?_shortest : fenceLength? "```".toList = some 3 := by decide

theorem isFence_referenceHeading : isFence referenceHeading.toList = false := by decide

/-- The lines of an outline, with the quoted code between fences at the end.  Those above it open a
block when the lines brought by the names do. -/
theorem exists_feedLines_fallbackDocument (code language projectName : String) :
    ∃ before, feedLines (fallbackDocument code language projectName) =
        before ++ referenceHeading.toList :: "```".toList ::
          (feedLines (join "\n" (quotedLines code)) ++ ["```".toList, []]) ∧
      (OpensUnder referenceHeading before ↔
        OpensUnder referenceHeading (namedLines language projectName)) := by
  obtain ⟨header, document, brought⟩ := exists_outline_header code language projectName
  have headingLine : feedLines referenceHeading = [referenceHeading.toList] :=
    feedLines_of_not_mem (by decide)
  have fenceLine : feedLines "```" = ["```".toList] := feedLines_of_not_mem (by decide)
  refine ⟨header.flatMap feedLines, ?_, ?_⟩
  · rw [document, feedLines_ofLines, List.flatMap_append, List.flatMap_cons, List.flatMap_cons,
      List.flatMap_cons, List.flatMap_cons, List.flatMap_nil, headingLine, fenceLine]
    simp
  · rw [← opensUnder_filter, List.filter_flatMap, ← opensUnder_filter (namedLines _ _), ← brought]
    rfl

/-- The quoted lines can be read back from an outline, with nothing behind them, exactly when none of
them is a fence and the names in the lines above do not open a block under a heading of their own. -/
theorem codeBlockUnder?_fallbackDocument_iff (code language projectName : String) :
    codeBlockUnder? "### Reference code" (fallbackDocument code language projectName) =
        some ⟨join "\n" ((newlineLines (trim code)).take 20), ""⟩ ↔
      (∀ line ∈ (newlineLines (trim code)).take 20, isFence line.toList = false) ∧
        ¬OpensUnder "### Reference code" (namedLines language projectName) := by
  obtain ⟨before, rows, opens⟩ := exists_feedLines_fallbackDocument code language projectName
  have read := codeBlockUnder?_eq_iff fenceLength?_shortest isFence_referenceHeading rows
  simp only [closes_three, ofFeedLines_feedLines] at read
  rw [forall_feedLines_quoted, opens] at read
  exact read

/-- A fence in the code closes the block early. -/
theorem fallbackDocument_fence_in_code :
    codeBlockUnder? "### Reference code" (fallbackDocument "a\n```\nb" "python" "Demo") =
        some ⟨"a", "b\n```\n"⟩ ∧
      join "\n" ((newlineLines (trim "a\n```\nb")).take 20) = "a\n```\nb" := by
  refine ⟨?_, by decide +kernel⟩
  obtain ⟨before, rows, opens⟩ := exists_feedLines_fallbackDocument "a\n```\nb" "python" "Demo"
  have names : namedLines "python" "Demo" = [] := by decide +kernel
  have early : ¬OpensUnder referenceHeading before := by
    rw [opens, names]
    rintro ⟨line, member, _⟩
    cases member
  have read := codeBlockUnder?_eq_blockOf? fenceLength?_shortest isFence_referenceHeading rows early
  rw [referenceHeading] at read
  rw [read]
  decide +kernel

end CodeAssistant
