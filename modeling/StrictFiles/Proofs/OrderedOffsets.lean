import StrictFiles.Proofs.TextPositions

/-!
Offsets of all lines and columns, also of those that a text does not have. What stands in front of an
offset is always a beginning of the text, so the offset is one of its positions; and from line one on the
offsets are in the order of their lines and columns.
-/

namespace StrictFiles

namespace Offset

section Sizes

theorem size_le_of_begins {first text : List Char} (begins : first <+: text) :
    size first ≤ size text := by
  obtain ⟨more, rfl⟩ := begins
  have parts := size_append first more
  omega

theorem size_take_le (text : List Char) {fewer more : Nat} (less : fewer ≤ more) :
    size (text.take fewer) ≤ size (text.take more) :=
  size_le_of_begins (List.take_prefix_take_left less)

end Sizes

section Beginnings

/-- Nothing is lost when a text is cut into its lines. -/
theorem flatten_linesWithEnds (text : List Char) : (linesWithEnds text).flatten = text := by
  fun_induction linesWithEnds text with
  | case1 => rfl
  | case2 rest ih => rw [List.flatten_cons, ih, List.singleton_append]
  | case3 c rest plain none ih =>
    rw [none, List.flatten_nil] at ih
    rw [← ih, List.flatten_singleton]
  | case4 c rest plain line others cut ih =>
    rw [cut, List.flatten_cons] at ih
    rw [List.flatten_cons, List.cons_append, ih]

/-- What stands in front of an offset is a beginning of the lines: some characters of the line asked for,
behind all lines above it. A line that is not there has all of them above it. -/
theorem exists_before (lines : List (List Char)) (line column : Nat) :
    ∃ before, before <+: lines.flatten ∧ inLines lines line column = size before := by
  fun_induction inLines lines line column with
  | case1 => exact ⟨[], List.nil_prefix, rfl⟩
  | case2 first rest column =>
    have inFirst : first.take (column - 1) <+: first := List.take_prefix _ _
    exact ⟨first.take (column - 1), inFirst.trans (List.prefix_append _ _), rfl⟩
  | case3 first rest line column later ih =>
    obtain ⟨before, begins, same⟩ := ih
    refine ⟨first ++ before, ?_, ?_⟩
    · rw [List.flatten_cons]
      exact (List.prefix_append_right_inj first).mpr begins
    · rw [same, size_append]

/-- Every offset is at a position of its text. -/
theorem exists_position (text : List Char) (line column : Nat) :
    ∃ position : Position text, position.byte = of text line column := by
  obtain ⟨before, ⟨behind, split⟩, same⟩ := exists_before (linesWithEnds text) line column
  rw [flatten_linesWithEnds] at split
  exact ⟨⟨before, behind, split.symm⟩, same.symm⟩

end Beginnings

/-- A place in a later line, or in the same line and not in front, has no smaller offset. The columns of
a line end where the line below it starts, and no line is shorter than what is taken of it. -/
theorem inLines_le (lines : List (List Char)) {line later column further : Nat} (counted : 0 < line)
    (ordered : line < later ∨ line = later ∧ column ≤ further) :
    inLines lines line column ≤ inLines lines later further := by
  induction lines generalizing line later with
  | nil => exact Nat.le_refl 0
  | cons first rest ih =>
    by_cases here : line = 1
    · subst here
      have inside : inLines (first :: rest) 1 column = size (first.take (column - 1)) := rfl
      by_cases same : later = 1
      · subst same
        exact size_take_le first (by omega)
      · have within : size (first.take (column - 1)) ≤ size first :=
          size_le_of_begins (List.take_prefix _ _)
        rw [inside, inLines.eq_3 _ _ _ _ same]
        omega
    · have below : later ≠ 1 := by omega
      have behind : inLines rest (line - 1) column ≤ inLines rest (later - 1) further :=
        ih (by omega) (by omega)
      rw [inLines.eq_3 _ _ _ _ here, inLines.eq_3 _ _ _ _ below]
      omega

/-- Whatever line and column are asked for, zero and those past the end included, the offset lies within
the text, in front of a character or at the end. From line one on, a place in a later line, or in the same
line and not in front, never has a smaller offset. -/
theorem offset_usable_ordered (text : List Char) :
    (∀ line column, of text line column ≤ size text ∧ IsBoundary text (of text line column)) ∧
      ∀ line column later further, 0 < line → line < later ∨ line = later ∧ column ≤ further →
        of text line column ≤ of text later further := by
  constructor
  · intro line column
    obtain ⟨position, same⟩ := exists_position text line column
    rw [← same]
    have begins : position.before <+: text := ⟨_, position.split.symm⟩
    exact ⟨size_le_of_begins begins, isBoundary_iff.mpr ⟨position, rfl⟩⟩
  · intro line column later further counted ordered
    exact inLines_le (linesWithEnds text) counted ordered

/-- A column far past a line with a wide character is not behind the first one of the line below, nor is
that behind a line that is not there; line zero is behind them all. -/
theorem offset_usable_ordered_wideCharacter :
    of "é\nb".toList 1 9 ≤ of "é\nb".toList 2 1 ∧ of "é\nb".toList 2 1 ≤ of "é\nb".toList 7 0 ∧
      IsBoundary "é\nb".toList (of "é\nb".toList 1 9) ∧
      of "é\nb".toList 1 9 = 3 ∧ of "é\nb".toList 7 0 = 4 ∧ of "é\nb".toList 0 1 = 4 := by
  obtain ⟨usable, ordered⟩ := offset_usable_ordered "é\nb".toList
  refine ⟨ordered 1 9 2 1 ?_ (.inl ?_), ordered 2 1 7 0 ?_ (.inl ?_), (usable 1 9).2, ?_, ?_, ?_⟩
  all_goals decide

end Offset

end StrictFiles
