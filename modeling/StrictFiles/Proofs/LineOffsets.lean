import Mathlib.Data.List.TakeWhile
import StrictFiles.Compiler.Offset
import StrictFiles.Proofs.OutputLines

/-!
The offsets of the columns of one line. A column of a line is the byte in front of one of its characters
or in front of its end. A column past that is the same byte on a last line that has no end, and the start
of the next line on any other.
-/

namespace StrictFiles

namespace Offset

section Sizes

theorem size_append (first second : List Char) : size (first ++ second) = size first + size second := by
  simp [size, Utf8.encode]

theorem size_cons (c : Char) (rest : List Char) : size (c :: rest) = size [c] + size rest :=
  size_append [c] rest

theorem size_feed : size ['\n'] = 1 := by
  decide

end Sizes

section Characters

variable (rest : List Char) (number column : Nat)

theorem of_nil : of [] number column = 0 :=
  rfl

/-- Columns count from one, and zero is taken for the first. -/
theorem of_pred_succ (text : List Char) : of text number (column - 1 + 1) = of text number column := by
  rw [of, of]
  induction linesWithEnds text generalizing number with
  | nil => rfl
  | cons first others ih =>
    by_cases here : number = 1
    · rw [here]
      rfl
    · rw [inLines.eq_3 _ _ _ _ here, inLines.eq_3 _ _ _ _ here, ih]

theorem of_one_one (text : List Char) : of text 1 1 = 0 := by
  rw [of]
  cases linesWithEnds text <;> rfl

/-- The end of a line is its last character. -/
theorem of_feed_one : of ('\n' :: rest) 1 (column + 2) = 1 := by
  have all : ['\n'].take (column + 1) = ['\n'] := List.take_of_length_le (by simp)
  calc of ('\n' :: rest) 1 (column + 2) = size (['\n'].take (column + 1)) := rfl
    _ = 1 := by rw [all, size_feed]

theorem of_feed_later :
    of ('\n' :: rest) (number + 2) column = size ['\n'] + of rest (number + 1) column :=
  rfl

variable {c : Char} (plain : c ≠ '\n')
include plain

theorem of_char_one : of (c :: rest) 1 (column + 2) = size [c] + of rest 1 (column + 1) := by
  rw [of, of, linesWithEnds.eq_3 _ _ plain]
  cases linesWithEnds rest with
  | nil => simp [inLines]
  | cons line others =>
    exact size_cons c (line.take column)

/-- A character moves all lines behind its own. -/
theorem of_char_later : of (c :: rest) (number + 2) column = size [c] + of rest (number + 2) column := by
  rw [of, of, linesWithEnds.eq_3 _ _ plain]
  cases linesWithEnds rest with
  | nil => rfl
  | cons line others =>
    have moved : inLines ((c :: line) :: others) (number + 2) column =
        size (c :: line) + inLines others (number + 1) column := rfl
    have still : inLines (line :: others) (number + 2) column =
        size line + inLines others (number + 1) column := rfl
    rw [moved, still, size_cons, Nat.add_assoc]

end Characters

/-- Whole lines move the lines behind them by their size. -/
theorem of_append {before : List Char} (whole : IsWhole before) (rest : List Char)
    (number column : Nat) :
    of (before ++ rest) (before.count '\n' + number + 1) column =
      size before + of rest (number + 1) column := by
  induction before with
  | nil => simp [size, Utf8.encode]
  | cons c before ih =>
    have below := ih whole.of_cons
    by_cases feed : c = '\n'
    · subst feed
      have line : ('\n' :: before).count '\n' + number + 1 = before.count '\n' + number + 2 := by
        rw [List.count_cons_self]
        omega
      rw [line, List.cons_append, of_feed_later, below, size_cons '\n' before, Nat.add_assoc]
    · -- the line of this character ends further on, so the line asked for is none of the first
      have something : before ≠ [] := by
        rintro rfl
        exact feed (whole c rfl)
      obtain ⟨more, many⟩ : ∃ more, before.count '\n' = more + 1 :=
        Nat.exists_eq_add_one.mpr (List.count_pos_iff.mpr (whole.of_cons.feed_mem something))
      have line : before.count '\n' + number + 1 = more + number + 2 := by omega
      rw [line] at below
      rw [List.count_cons_of_ne feed, line, List.cons_append, of_char_later _ _ _ feed, below,
        size_cons c before, Nat.add_assoc]

/-- The columns of a line, and those past it as columns of what follows. -/
theorem of_content {content : List Char} (plain : '\n' ∉ content) (behind : List Char) (column : Nat) :
    of (content ++ behind) 1 (column + 1) =
      size (content.take column) + of behind 1 (column - content.length + 1) := by
  induction content generalizing column with
  | nil => simp [size, Utf8.encode]
  | cons c content ih =>
    rw [List.mem_cons, not_or] at plain
    cases column with
    | zero => simp [of_one_one, size, Utf8.encode]
    | succ column =>
      have length : column + 1 - (c :: content).length = column - content.length := by
        rw [List.length_cons]
        omega
      rw [List.cons_append, of_char_one _ _ (Ne.symm plain.1), ih plain.2, List.take_succ_cons,
        size_cons c (content.take column), length, Nat.add_assoc]

/-- A line of a text, counted from one: the lines before it, its characters, and what follows them,
which starts with its end. -/
structure Line (text : List Char) (number : Nat) where
  before : List Char
  content : List Char
  behind : List Char
  split : text = before ++ (content ++ behind)
  whole : IsWhole before
  counted : number = before.count '\n' + 1
  plain : '\n' ∉ content
  ended : ∀ c ∈ behind.head?, c = '\n'

namespace Line

variable {text : List Char} {number : Nat}

/-- The line behind whole lines. -/
def below (before rest : List Char) (split : text = before ++ rest) (whole : IsWhole before)
    (counted : number = before.count '\n' + 1) : Line text number where
  before
  content := rest.takeWhile (· ≠ '\n')
  behind := rest.dropWhile (· ≠ '\n')
  split := by rw [List.takeWhile_append_dropWhile, split]
  whole
  counted
  plain := fun among => by simpa using List.mem_takeWhile_imp among
  ended := by
    intro c first
    have stops := List.head?_dropWhile_not (· ≠ '\n') rest
    rw [first] at stops
    simpa using stops

/-- The byte at which a line starts. -/
def start (line : Line text number) : Nat :=
  size line.before

/-- The byte behind the first characters of a line, as many as there are. -/
def clamped (line : Line text number) (column : Nat) : Nat :=
  line.start + size (line.content.take (min (column - 1) line.content.length))

theorem count_eq (line : Line text number) :
    text.count '\n' + 1 = number + line.behind.count '\n' := by
  obtain ⟨before, content, behind, rfl, whole, rfl, plain, ended⟩ := line
  have none : content.count '\n' = 0 := List.count_eq_zero.mpr plain
  rw [List.count_append, List.count_append, none]
  dsimp only
  omega

theorem of_eq (line : Line text number) (column : Nat) :
    of text number column = line.start + (size (line.content.take (column - 1)) +
      of line.behind 1 (column - 1 - line.content.length + 1)) := by
  obtain ⟨before, content, behind, rfl, whole, rfl, plain, ended⟩ := line
  rw [← of_pred_succ, ← of_content plain]
  exact of_append whole (content ++ behind) 0 _

theorem of_eq_clamped (line : Line text number) {column : Nat}
    (within : column ≤ line.content.length + 1 ∨ line.behind = []) :
    of text number column = line.clamped column := by
  have rest : of line.behind 1 (column - 1 - line.content.length + 1) = 0 := by
    rcases within with inside | last
    · have none : column - 1 - line.content.length = 0 := by omega
      rw [none, of_one_one]
    · rw [last, of_nil]
  rw [line.of_eq, rest, Nat.add_zero, clamped, ← List.take_eq_take_min]

/-- What stands before a line is known by its number. -/
theorem before_eq (line other : Line text number) : line.before = other.before := by
  have counted : line.before.count '\n' = other.before.count '\n' := by
    have here := line.counted
    have there := other.counted
    omega
  have here : line.before <+: text := ⟨_, line.split.symm⟩
  have there : other.before <+: text := ⟨_, other.split.symm⟩
  rcases List.prefix_or_prefix_of_prefix here there with less | less
  · exact other.whole.eq_of_begins less counted
  · exact (line.whole.eq_of_begins less counted.symm).symm

/-- A line that has an end has one below it. -/
theorem exists_next (line : Line text number) (ends : line.behind ≠ []) :
    ∃ next : Line text (number + 1), next.start = line.start + size line.content + 1 := by
  obtain ⟨c, rest, behind⟩ := List.exists_cons_of_ne_nil ends
  obtain rfl := line.ended c (by rw [behind]; rfl)
  have split : text = line.before ++ line.content ++ ['\n'] ++ rest :=
    line.split.trans (by simp [behind])
  have counted : number + 1 = (line.before ++ line.content ++ ['\n']).count '\n' + 1 := by
    have here := line.counted
    simp only [List.count_append, List.count_eq_zero.mpr line.plain, List.count_singleton_self]
    omega
  have whole : IsWhole (line.before ++ line.content ++ ['\n']) := by simp [IsWhole]
  refine ⟨below _ rest split whole counted, ?_⟩
  rw [start, start, below, size_append, size_append, size_feed]

/-- All lines but the last one have an end. -/
theorem behind_ne_nil_iff (line : Line text number) :
    line.behind ≠ [] ↔ number < text.count '\n' + 1 := by
  have count := line.count_eq
  cases behind : line.behind with
  | nil =>
    rw [behind, List.count_nil] at count
    simp only [ne_eq, not_true_eq_false, false_iff]
    omega
  | cons c rest =>
    obtain rfl := line.ended c (by rw [behind]; rfl)
    rw [behind, List.count_cons_self] at count
    simp only [ne_eq, reduceCtorEq, not_false_eq_true, true_iff]
    omega

theorem behind_ne_nil_of_next (line : Line text number) (next : Line text (number + 1)) :
    line.behind ≠ [] := by
  have count := next.count_eq
  exact line.behind_ne_nil_iff.mpr (by omega)

/-- The line below one starts behind its end. -/
theorem start_next (line : Line text number) (next : Line text (number + 1)) :
    next.start = line.start + size line.content + 1 := by
  obtain ⟨same, starts⟩ := line.exists_next (line.behind_ne_nil_of_next next)
  rw [start, next.before_eq same, ← start, starts]

/-- A column past a line that has an end is taken for the first one of the line below. -/
theorem of_past_end (line : Line text number) (next : Line text (number + 1)) {column : Nat}
    (past : line.content.length + 1 < column) : of text number column = next.start := by
  obtain ⟨c, rest, behind⟩ := List.exists_cons_of_ne_nil (line.behind_ne_nil_of_next next)
  obtain rfl := line.ended c (by rw [behind]; rfl)
  obtain ⟨more, count⟩ : ∃ more, column - 1 - line.content.length + 1 = more + 2 :=
    ⟨column - 1 - line.content.length - 1, by omega⟩
  rw [line.start_next next, line.of_eq, List.take_of_length_le (by omega), behind, count,
    of_feed_one, Nat.add_assoc]

theorem clamped_lt_next (line : Line text number) (next : Line text (number + 1)) (column : Nat) :
    line.clamped column < next.start := by
  have parts : size line.content =
      size (line.content.take (min (column - 1) line.content.length)) +
        size (line.content.drop (min (column - 1) line.content.length)) := by
    rw [← size_append, List.take_append_drop]
  rw [line.start_next next, clamped]
  omega

end Line

/-- The lines of a text are numbered from one, and there is one more than it has line ends. -/
theorem nonempty_line_iff {text : List Char} {number : Nat} :
    Nonempty (Line text number) ↔ 0 < number ∧ number ≤ text.count '\n' + 1 := by
  constructor
  · rintro ⟨line⟩
    have counted := line.counted
    have count := line.count_eq
    omega
  · rintro ⟨positive, bounded⟩
    induction number with
    | zero => omega
    | succ number ih =>
      cases number with
      | zero => exact ⟨.below [] text rfl nofun rfl⟩
      | succ number =>
        obtain ⟨line⟩ := ih (by omega) (by omega)
        obtain ⟨next, _⟩ := line.exists_next (line.behind_ne_nil_iff.mpr (by omega))
        exact ⟨next⟩

/-- The offset of a column in any line that a text has. It is the byte behind the characters in front of
the column, at most those of its line, exactly when the column is not past the line or the line has no
end. Of a line that has one, a column past it is at the start of the next line, and so not before it. -/
theorem clamped_iff (text : List Char) (number column : Nat) :
    (Nonempty (Line text number) ↔ 0 < number ∧ number ≤ text.count '\n' + 1) ∧
    ∀ line : Line text number,
      (of text number column = line.clamped column ↔
        column ≤ line.content.length + 1 ∨ line.behind = []) ∧
      ∀ next : Line text (number + 1),
        (of text number column < next.start ↔ column ≤ line.content.length + 1) ∧
        (line.content.length + 1 < column → of text number column = next.start) := by
  refine ⟨nonempty_line_iff, fun line => ⟨⟨?_, line.of_eq_clamped⟩, fun next => ⟨⟨?_, ?_⟩, ?_⟩⟩⟩
  · intro same
    by_contra outside
    obtain ⟨past, ends⟩ := not_or.mp outside
    obtain ⟨next, _⟩ := line.exists_next ends
    have before := line.clamped_lt_next next column
    rw [← same, line.of_past_end next (by omega)] at before
    exact Nat.lt_irrefl _ before
  · intro before
    by_contra past
    rw [line.of_past_end next (by omega)] at before
    exact Nat.lt_irrefl _ before
  · intro inside
    rw [line.of_eq_clamped (.inl inside)]
    exact line.clamped_lt_next next column
  · exact line.of_past_end next

/-- Column 9 of the first of two lines of two characters is the first byte of the second line. -/
theorem pastEnd_starts_nextLine :
    ∃ (line : Line "ab\ncd\n".toList 1) (next : Line "ab\ncd\n".toList 2),
      line.content = "ab".toList ∧ line.clamped 9 = 2 ∧ next.start = 3 ∧
        of "ab\ncd\n".toList 1 9 = 3 ∧
        ¬ ∀ column, of "ab\ncd\n".toList 1 column = line.clamped column := by
  have shown : of "ab\ncd\n".toList 1 9 = 3 := by decide
  refine ⟨⟨[], "ab".toList, "\ncd\n".toList, rfl, by decide, rfl, by decide, by rintro _ ⟨⟩; rfl⟩,
    ⟨"ab\n".toList, "cd".toList, ['\n'], rfl, by decide, rfl, by decide, by rintro _ ⟨⟩; rfl⟩,
    rfl, by decide, by decide, shown, ?_⟩
  intro clamped
  have claimed := (clamped 9).symm.trans shown
  revert claimed
  decide

end Offset

end StrictFiles
