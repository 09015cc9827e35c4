import CodeAssistant.Text.Search
import Mathlib.Data.List.Chain

namespace CodeAssistant
namespace Text

/-!
# Rows of a table

A row is a line of cells between vertical bars.  It is cut at the bars that no backslash precedes,
so a bar can be in a cell when a backslash stands directly before it (`BarsEscaped`).  Cells in
which this is so for all bars are found again (`rowCells?_row`), and the cells of any line are of
this kind (`escaped_of_mem_rowCells?`).  Putting a backslash before every bar of a text makes it so,
and this can be undone (`unescapeBars_replaceChar`).
-/

/-- Every bar of the text stands directly behind a backslash.  The first character stands behind a
blank. -/
def BarsEscaped (cs : List Char) : Prop :=
  (' ' :: cs).IsChain fun before c => c = '|' → before = '\\'

instance (cs : List Char) : Decidable (BarsEscaped cs) :=
  inferInstanceAs (Decidable (List.IsChain _ _))

/-- The pieces of a line, of which `piece` is the current one backwards, between the bars that no
backslash precedes. -/
def barPiecesFrom (piece : List Char) : List Char → List (List Char)
  | [] => [piece.reverse]
  | c :: rest =>
    if c = '|' ∧ piece.head? ≠ some '\\' then piece.reverse :: barPiecesFrom [] rest
    else barPiecesFrom (c :: piece) rest

/-- The cells of a line that begins and ends with a bar. -/
def rowCells? (line : List Char) : Option (List (List Char)) :=
  match barPiecesFrom [] line with
  | [] :: pieces => if pieces.getLast? = some [] then some pieces.dropLast else none
  | _ => none

/-- The text as a cell, with one blank on each side. -/
def pad (cs : List Char) : List Char :=
  ' ' :: (cs ++ [' '])

/-- The text of a cell. -/
def unpad? : List Char → Option (List Char)
  | ' ' :: rest => if rest.getLast? = some ' ' then some rest.dropLast else none
  | _ => none

/-- The line with the given cells. -/
def row (cells : List (List Char)) : List Char :=
  '|' :: cells.flatMap (· ++ ['|'])

/-! ## Escaped bars -/

section
variable {c : Char} {cs xs ys piece : List Char}

theorem barsEscaped_reverse_cons :
    BarsEscaped (c :: piece).reverse ↔
      BarsEscaped piece.reverse ∧ (c = '|' → piece.head? = some '\\') := by
  cases piece with
  | nil => simp [BarsEscaped]
  | cons before piece =>
    have split : ' ' :: (c :: before :: piece).reverse =
        (' ' :: piece.reverse) ++ before :: c :: [] := by simp
    have same : ' ' :: (before :: piece).reverse = (' ' :: piece.reverse) ++ [before] := by simp
    rw [BarsEscaped, split, List.isChain_append_cons_cons, ← same, ← BarsEscaped, List.head?_cons,
      Option.some.injEq]
    exact and_congr_right fun _ => and_iff_left (.singleton c)

theorem BarsEscaped.nil : BarsEscaped [] :=
  .singleton ' '

theorem BarsEscaped.of_append (escaped : BarsEscaped (xs ++ ys)) : BarsEscaped xs := by
  rw [BarsEscaped, ← List.cons_append] at escaped
  exact escaped.left_of_append

theorem barsEscaped_of_lacks (lacks : '|' ∉ cs) : BarsEscaped cs := by
  rw [BarsEscaped]
  generalize ' ' = before
  induction cs generalizing before with
  | nil => exact .singleton before
  | cons c cs ih =>
    rw [List.mem_cons, not_or] at lacks
    exact .cons_cons (fun bar => absurd bar.symm lacks.1) (ih lacks.2 c)

/-! ## Padding -/

theorem barsEscaped_pad_iff : BarsEscaped (pad cs) ↔ BarsEscaped cs := by
  have blank : ∀ before : Char, ' ' = '|' → before = '\\' :=
    fun _ bar => absurd bar (by decide)
  rw [BarsEscaped, pad, List.isChain_cons_cons, ← List.cons_append, List.isChain_append]
  constructor
  · exact fun padded => padded.2.1
  · intro escaped
    refine ⟨blank ' ', escaped, .singleton ' ', ?_⟩
    rintro before - c ⟨⟩
    exact blank before

theorem mem_pad_of_mem (present : c ∈ cs) : c ∈ pad cs :=
  List.mem_cons_of_mem _ (List.mem_append_left _ present)

theorem getLast?_pad (cs : List Char) : (pad cs).getLast? ≠ some '\\' := by
  rw [pad, ← List.cons_append, List.getLast?_concat]
  decide

theorem unpad?_pad (cs : List Char) : unpad? (pad cs) = some cs := by
  rw [pad, unpad?, List.getLast?_concat, if_pos rfl, List.dropLast_concat]

theorem eq_pad_of_unpad? {cell : List Char} (read : unpad? cell = some cs) : cell = pad cs := by
  rw [unpad?.eq_def] at read
  split at read
  · split_ifs at read with last
    rw [pad, ← Option.some.inj read, List.dropLast_append_getLast? _ last]
  · cases read

end

/-! ## Cells -/

section
variable {c : Char} {cs piece found : List Char} {cells : List (List Char)}

theorem barPiecesFrom_append (escaped : BarsEscaped (piece.reverse ++ cs)) (rest : List Char) :
    barPiecesFrom piece (cs ++ rest) = barPiecesFrom (cs.reverse ++ piece) rest := by
  induction cs generalizing piece with
  | nil => rfl
  | cons c cs ih =>
    have later : BarsEscaped ((c :: piece).reverse ++ cs) := by
      rwa [List.reverse_cons, List.append_assoc, List.singleton_append]
    have kept := (barsEscaped_reverse_cons.mp later.of_append).2
    rw [List.cons_append, barPiecesFrom, if_neg fun cut => cut.2 (kept cut.1), ih later,
      List.reverse_cons, List.append_assoc, List.singleton_append]

theorem barPiecesFrom_bar (open_end : piece.head? ≠ some '\\') (rest : List Char) :
    barPiecesFrom piece ('|' :: rest) = piece.reverse :: barPiecesFrom [] rest := by
  rw [barPiecesFrom, if_pos ⟨rfl, open_end⟩]

/-- Cells without bare bars are found again, if the bar behind none of them is escaped by it. -/
theorem rowCells?_row (escaped : ∀ cell ∈ cells, BarsEscaped cell)
    (ends : ∀ cell ∈ cells, cell.getLast? ≠ some '\\') : rowCells? (row cells) = some cells := by
  have body : barPiecesFrom [] (cells.flatMap (· ++ ['|'])) = cells ++ [[]] := by
    induction cells with
    | nil => rfl
    | cons cell cells ih =>
      rw [List.forall_mem_cons] at escaped ends
      have start : BarsEscaped ([].reverse ++ cell) := escaped.1
      have last : (cell.reverse ++ []).head? ≠ some '\\' := by
        rw [List.append_nil, List.head?_reverse]
        exact ends.1
      rw [List.flatMap_cons, List.append_assoc, List.singleton_append,
        barPiecesFrom_append start, barPiecesFrom_bar last, ih escaped.2 ends.2, List.append_nil,
        List.reverse_reverse, List.cons_append]
  have pieces : barPiecesFrom [] (row cells) = [] :: (cells ++ [[]]) := by
    rw [row, barPiecesFrom_bar (by decide), body, List.reverse_nil]
  rw [rowCells?, pieces]
  simp

example : rowCells? "| a\\|b | 80 |".toList = some [" a\\|b ".toList, " 80 ".toList] := by decide

theorem escaped_of_mem_barPiecesFrom (escaped : BarsEscaped piece.reverse)
    (member : found ∈ barPiecesFrom piece cs) : BarsEscaped found := by
  fun_induction barPiecesFrom piece cs with
  | case1 piece =>
    rw [List.mem_singleton.mp member]
    exact escaped
  | case2 piece c rest cut ih =>
    rcases List.mem_cons.mp member with same | later
    · rw [same]
      exact escaped
    · exact ih .nil later
  | case3 piece c rest kept ih =>
    refine ih (barsEscaped_reverse_cons.mpr ⟨escaped, fun bar => ?_⟩) member
    by_contra bare
    exact kept ⟨bar, bare⟩

theorem mem_of_mem_barPiecesFrom (member : found ∈ barPiecesFrom piece cs) (present : c ∈ found) :
    c ∈ piece ∨ c ∈ cs := by
  fun_induction barPiecesFrom piece cs with
  | case1 piece =>
    rw [List.mem_singleton.mp member, List.mem_reverse] at present
    exact Or.inl present
  | case2 piece d rest cut ih =>
    rcases List.mem_cons.mp member with same | later
    · rw [same, List.mem_reverse] at present
      exact Or.inl present
    · exact Or.inr (List.mem_cons_of_mem _ ((ih later).resolve_left List.not_mem_nil))
  | case3 piece d rest kept ih =>
    rcases ih member with before | after
    · rw [List.mem_cons] at before ⊢
      exact before.elim (fun same => Or.inr (Or.inl same)) Or.inl
    · exact Or.inr (List.mem_cons_of_mem _ after)

theorem mem_barPiecesFrom_of_mem_rowCells? (read : rowCells? cs = some cells)
    (member : found ∈ cells) : found ∈ barPiecesFrom [] cs := by
  rw [rowCells?.eq_def] at read
  split at read
  · split_ifs at read
    rename_i pieces split closed
    have front := (List.dropLast_sublist pieces).subset
    rw [Option.some.inj read] at front
    rw [split]
    exact List.mem_cons_of_mem _ (front member)
  · cases read

/-- No line has a cell with a bare bar in it. -/
theorem escaped_of_mem_rowCells? (read : rowCells? cs = some cells) (member : found ∈ cells) :
    BarsEscaped found := by
  have start : BarsEscaped [].reverse := .nil
  exact escaped_of_mem_barPiecesFrom start (mem_barPiecesFrom_of_mem_rowCells? read member)

theorem mem_of_mem_rowCells? (read : rowCells? cs = some cells) (member : found ∈ cells)
    (present : c ∈ found) : c ∈ cs :=
  (mem_of_mem_barPiecesFrom (mem_barPiecesFrom_of_mem_rowCells? read member) present).resolve_left
    List.not_mem_nil

end

/-! ## Escaping -/

/-- The text in which the bars have lost their backslashes. -/
def unescapeBars : List Char → List Char
  | '\\' :: '|' :: rest => '|' :: unescapeBars rest
  | c :: rest => c :: unescapeBars rest
  | [] => []

section
variable {c : Char} {cs : List Char}

theorem unescapeBars_cons (behind : cs.head? ≠ some '|') :
    unescapeBars (c :: cs) = c :: unescapeBars cs := by
  rw [unescapeBars.eq_def]
  split
  · rename_i rest same
    rw [(List.cons.inj same).2] at behind
    exact absurd rfl behind
  · rename_i same
    rw [(List.cons.inj same).1, (List.cons.inj same).2]
  · rename_i same
    cases same

/-- Escaping puts something before every bar. -/
theorem head?_escaped (cs : List Char) : (replaceChar '|' ['\\', '|'] cs).head? ≠ some '|' := by
  cases cs with
  | nil => decide
  | cons c cs =>
    rw [replaceChar, List.flatMap_cons]
    split_ifs with bar
    · rw [List.cons_append, List.head?_cons]
      decide
    · rw [List.singleton_append, List.head?_cons, ne_eq, Option.some.injEq]
      exact bar

/-- Escaping can be undone, whatever backslashes the text has of its own. -/
theorem unescapeBars_replaceChar (cs : List Char) :
    unescapeBars (replaceChar '|' ['\\', '|'] cs) = cs := by
  induction cs with
  | nil => rfl
  | cons c cs ih =>
    have behind := head?_escaped cs
    rw [replaceChar] at ih behind ⊢
    rw [List.flatMap_cons]
    split_ifs with bar
    · rw [List.cons_append, List.singleton_append, unescapeBars, ih, bar]
    · rw [List.singleton_append, unescapeBars_cons behind, ih]

theorem barsEscaped_replaceChar (cs : List Char) :
    BarsEscaped (replaceChar '|' ['\\', '|'] cs) := by
  rw [BarsEscaped]
  generalize ' ' = before
  induction cs generalizing before with
  | nil => exact .singleton before
  | cons c cs ih =>
    rw [replaceChar] at ih ⊢
    rw [List.flatMap_cons]
    split_ifs with bar
    · exact .cons_cons (fun same => absurd same (by decide)) (.cons_cons (fun _ => rfl) (ih '|'))
    · exact .cons_cons (fun same => absurd same bar) (ih c)

theorem mem_of_mem_unescapeBars (member : c ∈ unescapeBars cs) : c ∈ cs := by
  fun_induction unescapeBars cs with
  | case1 rest ih =>
    rcases List.mem_cons.mp member with same | later
    · rw [same]
      exact List.mem_cons_of_mem _ List.mem_cons_self
    · exact List.mem_cons_of_mem _ (List.mem_cons_of_mem _ (ih later))
  | case2 d rest other ih =>
    rcases List.mem_cons.mp member with same | later
    · rw [same]
      exact List.mem_cons_self
    · exact List.mem_cons_of_mem _ (ih later)
  | case3 => cases member

end

end Text
end CodeAssistant
