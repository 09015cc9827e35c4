import CodeAssistant.Proofs.Text.Lines
import CodeAssistant.Text.LineRange
import Mathlib.Data.String.Basic

namespace CodeAssistant
namespace Text

/-!
# Line ranges cut the text into its lines

The pass that finds the line ranges keeps two byte positions, where the current line begins and where
the next character begins.  Both are sizes of initial parts of the text, which is all that a position
needs to lie between characters (`cut?_of_split`).  From this invariant it follows by induction on
the characters left that every range can be cut out, and that it holds the line that `splitLines`
finds (`map_cut?_lineRanges`).
-/

open String (utf8Len)

/-- The lines of a source text. -/
def sourceLines (s : String) : List String :=
  (splitLines s.toList).map String.ofList

/-! ## Cutting out one range -/

variable {s : String} {before line rest after : List Char}

theorem isValid_of_split (split : s.toList = before ++ after) :
    String.Pos.Raw.IsValid s ⟨utf8Len before⟩ := by
  refine String.Pos.Raw.isValid_iff_exists_append.mpr
    ⟨String.ofList before, String.ofList after, ?_, ?_⟩
  · rw [← String.ofList_append, ← split, String.ofList_toList]
  · rw [String.rawEndPos, String.utf8ByteSize_ofList]

theorem ByteRange.fitsIn_of_split (split : s.toList = before ++ line ++ after) :
    ByteRange.FitsIn ⟨utf8Len before, utf8Len (before ++ line)⟩ s where
  ordered := by
    rw [String.utf8Len_append]
    exact Nat.le_add_right _ _
  inside := by
    rw [← String.utf8Len_toList, split, String.utf8Len_append (before ++ line)]
    exact Nat.le_add_right _ _
  startsCharacter := isValid_of_split (split.trans (List.append_assoc before line after))
  endsCharacter := isValid_of_split split

/-- A range between two sizes of initial parts holds the characters by which these differ. -/
theorem ByteRange.cut?_of_split (split : s.toList = before ++ line ++ after) :
    ByteRange.cut? s ⟨utf8Len before, utf8Len (before ++ line)⟩ = some (String.ofList line) := by
  have fits := fitsIn_of_split split
  have whole : s = String.ofList before ++ String.ofList line ++ String.ofList after := by
    rw [← String.ofList_append, ← String.ofList_append, ← split, String.ofList_toList]
  have ordered : s.pos ⟨utf8Len before⟩ fits.startsCharacter ≤
      s.pos ⟨utf8Len (before ++ line)⟩ fits.endsCharacter := fits.ordered
  have starts : (s.pos ⟨utf8Len before⟩ fits.startsCharacter).Splits (String.ofList before)
      (String.ofList line ++ String.ofList after) := {
    eq_append := by rw [← String.append_assoc]; exact whole
    offset_eq_rawEndPos := by rw [String.rawEndPos, String.utf8ByteSize_ofList]; rfl }
  have ends : (s.pos ⟨utf8Len (before ++ line)⟩ fits.endsCharacter).Splits
      (String.ofList before ++ String.ofList line) (String.ofList after) := {
    eq_append := whole
    offset_eq_rawEndPos := by
      rw [← String.ofList_append, String.rawEndPos, String.utf8ByteSize_ofList]; rfl }
  obtain ⟨_, held⟩ := String.copy_slice_eq_iff_splits.mpr ⟨_, _, starts, ends⟩
  rw [cut?, dif_pos fits, String.extract_eq_copy_slice _ _ ordered, held]

theorem ByteRange.fitsIn_of_cut? {range : ByteRange} {found : String}
    (held : ByteRange.cut? s range = some found) : range.FitsIn s := by
  by_contra unfit
  rw [cut?, dif_neg unfit] at held
  cases held

/-! ## Cutting out all ranges -/

/-- Off a carriage return with its line feed, characters are read one by one. -/
theorem lineRangesFrom_of_apart {c : Char}
    (apart : ∀ tail, c = '\r' → rest = '\n' :: tail → False) (size start index next : Nat) :
    lineRangesFrom size start ((index, c) :: indexedFrom next rest) =
      if isLineBreak c then
        ⟨start, index⟩ :: lineRangesFrom size (index + c.utf8Size) (indexedFrom next rest)
      else lineRangesFrom size start (indexedFrom next rest) := by
  rw [lineRangesFrom]
  intro after tail feed carriage
  cases rest with
  | nil => cases feed
  | cons d rest =>
    rw [indexedFrom, List.cons.injEq, Prod.mk.injEq] at feed
    exact apart rest carriage (by rw [feed.1.2])

/-- What the current line has so far lies between the two positions of the pass. -/
theorem map_cut?_lineRangesFrom (split : s.toList = before ++ line.reverse ++ rest) :
    (lineRangesFrom s.utf8ByteSize (utf8Len before)
        (indexedFrom (utf8Len (before ++ line.reverse)) rest)).map (ByteRange.cut? s) =
      (linesFrom line rest).map (fun line => some (String.ofList line)) := by
  have size : s.utf8ByteSize = utf8Len (before ++ line.reverse ++ rest) := by
    rw [← split, String.utf8Len_toList]
  fun_induction linesFrom line rest generalizing before with
  | case1 line empty =>
    rw [List.isEmpty_iff.mp empty] at size
    rw [indexedFrom, lineRangesFrom, size]
    simp
  | case2 line shown =>
    have longer : utf8Len before < s.utf8ByteSize := by
      have some_bytes : utf8Len line ≠ 0 := by simpa using shown
      rw [size, List.append_nil, String.utf8Len_append, String.utf8Len_reverse]
      omega
    rw [indexedFrom, lineRangesFrom, if_pos longer, size, List.append_nil, List.map_singleton,
      ByteRange.cut?_of_split split, List.map_singleton]
  | case3 line rest ih =>
    have next : s.toList = (before ++ line.reverse ++ ['\r', '\n']) ++ [].reverse ++ rest := by
      simpa using split
    have passed : utf8Len (before ++ line.reverse ++ ['\r', '\n']) =
        utf8Len (before ++ line.reverse) + '\r'.utf8Size + 1 := by
      rw [String.utf8Len_append]
      rfl
    have later := ih next (by rw [← next, String.utf8Len_toList])
    rw [List.reverse_nil, List.append_nil, passed] at later
    rw [indexedFrom, indexedFrom, lineRangesFrom, List.map_cons, ByteRange.cut?_of_split split]
    exact congrArg _ later
  | case4 line c rest apart ends ih =>
    have next : s.toList = (before ++ line.reverse ++ [c]) ++ [].reverse ++ rest := by
      simpa using split
    have passed : utf8Len (before ++ line.reverse ++ [c]) =
        utf8Len (before ++ line.reverse) + c.utf8Size := by
      simp [Nat.add_assoc]
    have later := ih next (by rw [← next, String.utf8Len_toList])
    rw [List.reverse_nil, List.append_nil, passed] at later
    rw [indexedFrom, lineRangesFrom_of_apart apart, if_pos ends, List.map_cons,
      ByteRange.cut?_of_split split, later, List.map_cons]
  | case5 line c rest apart other ih =>
    have next : s.toList = before ++ (c :: line).reverse ++ rest := by simpa using split
    have passed : utf8Len (before ++ (c :: line).reverse) =
        utf8Len (before ++ line.reverse) + c.utf8Size := by
      simp [Nat.add_assoc]
    have later := ih next (by rw [← next, String.utf8Len_toList])
    rw [passed] at later
    rw [indexedFrom, lineRangesFrom_of_apart apart, if_neg other, later]

/-- Every range can be cut out, and holds the line that stands at its place. -/
theorem map_cut?_lineRanges (s : String) :
    (lineRanges s).map (ByteRange.cut? s) = (sourceLines s).map some := by
  have split : s.toList = [] ++ [].reverse ++ s.toList := rfl
  have all := map_cut?_lineRangesFrom split
  rw [sourceLines, List.map_map]
  exact all

example : lineRanges "é\r\nb" = [⟨0, 2⟩, ⟨4, 5⟩] := by decide +kernel

theorem fitsIn_of_mem_lineRanges {range : ByteRange} (member : range ∈ lineRanges s) :
    range.FitsIn s := by
  have cut : ByteRange.cut? s range ∈ (sourceLines s).map some := by
    rw [← map_cut?_lineRanges]
    exact List.mem_map_of_mem member
  obtain ⟨line, _, held⟩ := List.mem_map.mp cut
  exact ByteRange.fitsIn_of_cut? held.symm

end Text
end CodeAssistant
