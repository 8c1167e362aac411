import Mathlib.Data.List.DropRight
import StrictFiles.Proofs.LineOffsets
import StrictFiles.Proofs.Utf8RoundTrip

/-!
Positions in a text and the bytes they stand for. The positions are the bytes at which a character starts,
and the end of the text; each is found again from its line and column.
-/

namespace StrictFiles

/-- The bytes of a character behind the first one are told from it by their value. -/
theorem Utf8.Spelling.tails {n : Nat} {a : UInt8} {tail : Bytes} (spelling : Spelling n (a :: tail)) :
    ¬ IsTail a ∧ ∀ b ∈ tail, IsTail b := by
  cases spelling with
  | one small => exact ⟨fun ⟨_, _⟩ => by omega, List.forall_mem_nil _⟩
  | two lead second => exact ⟨fun ⟨_, _⟩ => by omega, List.forall_mem_singleton.mpr second⟩
  | three lead second third =>
    exact ⟨fun ⟨_, _⟩ => by omega,
      List.forall_mem_cons.mpr ⟨second.1, List.forall_mem_singleton.mpr third⟩⟩
  | four lead second third fourth =>
    exact ⟨fun ⟨_, _⟩ => by omega, List.forall_mem_cons.mpr ⟨second.1,
      List.forall_mem_cons.mpr ⟨third, List.forall_mem_singleton.mpr fourth⟩⟩⟩

namespace Offset

/-- Every character has a size, so a beginning of a text that has the size of all of it is the whole. -/
theorem eq_of_begins {first text : List Char} (begins : first <+: text)
    (same : size first = size text) : first = text := by
  obtain ⟨more, rfl⟩ := begins
  rw [size_append, Nat.left_eq_add] at same
  cases more with
  | nil => rw [List.append_nil]
  | cons c more =>
    obtain ⟨a, tail, spelt⟩ := (Utf8.encodeChar_spelling c).nonempty
    simp [size, Utf8.encode, spelt] at same

/-- A byte at which a character of a text starts, or the end of the text. -/
def IsBoundary (text : List Char) (byte : Nat) : Prop :=
  byte = size text ∨ ∃ b, (Utf8.encode text)[byte]? = some b ∧ ¬ Utf8.IsTail b

/-- A text cut in two: in front of a character, or at its end. -/
structure Position (text : List Char) where
  before : List Char
  behind : List Char
  split : text = before ++ behind

namespace Position

variable {text : List Char}

/-- The number of bytes in front of a position. -/
def byte (position : Position text) : Nat :=
  size position.before

/-- The line of a position: one more than there are line ends in front of it. -/
def line (position : Position text) : Nat :=
  position.before.count '\n' + 1

/-- The characters of its line in front of a position. -/
def inLine (position : Position text) : List Char :=
  position.before.rtakeWhile (· ≠ '\n')

/-- The column of a position: one more than there are characters of its line in front of it. -/
def column (position : Position text) : Nat :=
  position.inLine.length + 1

theorem eq_of_byte_eq {position other : Position text} (same : position.byte = other.byte) :
    position = other := by
  have here : position.before <+: text := ⟨_, position.split.symm⟩
  have there : other.before <+: text := ⟨_, other.split.symm⟩
  have before : position.before = other.before := by
    rcases List.prefix_or_prefix_of_prefix here there with less | less
    · exact eq_of_begins less same
    · exact (eq_of_begins less same.symm).symm
  obtain ⟨before, behind, split⟩ := position
  obtain ⟨_, otherBehind, otherSplit⟩ := other
  dsimp only at before
  subst before
  obtain rfl := List.append_cancel_left (split.symm.trans otherSplit)
  rfl

/-- The line in which a position stands. -/
theorem exists_line (position : Position text) :
    ∃ line : Line text position.line,
      line.start + size position.inLine = position.byte ∧ position.inLine <+: line.content := by
  have parts : position.before.rdropWhile (· ≠ '\n') ++ position.inLine = position.before :=
    List.rdropWhile_append_rtakeWhile
  have inLine : ∀ c ∈ position.inLine, c ≠ '\n' :=
    fun c among => by simpa using List.mem_rtakeWhile_imp among
  have split : text = position.before.rdropWhile (· ≠ '\n') ++ (position.inLine ++ position.behind) := by
    rw [← List.append_assoc, parts, ← position.split]
  have whole : IsWhole (position.before.rdropWhile (· ≠ '\n')) := by
    intro c last
    obtain ⟨nonempty, rfl⟩ := List.mem_getLast?_eq_getLast last
    simpa using List.rdropWhile_last_not _ _ nonempty
  have counted : position.line = (position.before.rdropWhile (· ≠ '\n')).count '\n' + 1 := by
    have none : position.inLine.count '\n' = 0 :=
      List.count_eq_zero.mpr fun among => inLine _ among rfl
    conv_lhs => rw [line, ← parts, List.count_append, none, Nat.add_zero]
  refine ⟨.below _ _ split whole counted, ?_, ?_⟩
  · have sizes := size_append (position.before.rdropWhile (· ≠ '\n')) position.inLine
    rw [parts] at sizes
    exact sizes.symm
  · have content : (position.inLine ++ position.behind).takeWhile (· ≠ '\n') =
        position.inLine ++ position.behind.takeWhile (· ≠ '\n') :=
      List.takeWhile_append_of_pos (by simpa using inLine)
    exact ⟨_, content.symm⟩

end Position

theorem isBoundary_cons {c : Char} {text : List Char} {byte : Nat} :
    IsBoundary (c :: text) byte ↔
      byte = 0 ∨ ∃ more, byte = size [c] + more ∧ IsBoundary text more := by
  have spelling := Utf8.encodeChar_spelling c
  obtain ⟨a, tail, spelt⟩ := spelling.nonempty
  rw [spelt] at spelling
  obtain ⟨first, others⟩ := spelling.tails
  have bytes : Utf8.encode (c :: text) = a :: tail ++ Utf8.encode text := by
    rw [Utf8.encode, List.flatMap_cons, spelt, Utf8.encode]
  have here : size [c] = (a :: tail).length := by
    rw [← spelt]
    simp [size, Utf8.encode]
  rw [IsBoundary, bytes, size_cons, here]
  by_cases inside : byte < (a :: tail).length
  · -- of the bytes of a character the first one alone is at a boundary
    rw [List.getElem?_append_left inside]
    cases byte with
    | zero => exact iff_of_true (.inr ⟨a, rfl, first⟩) (.inl rfl)
    | succ byte =>
      refine iff_of_false ?_ ?_
      · rintro (whole | ⟨b, found, lead⟩)
        · omega
        · exact lead (others b (List.mem_of_getElem? found))
      · rintro (start | ⟨more, far, _⟩) <;> omega
  · obtain ⟨more, rfl⟩ := Nat.exists_eq_add_of_le (Nat.not_lt.mp inside)
    rw [List.getElem?_append_right (Nat.le_add_right _ _), Nat.add_sub_cancel_left]
    constructor
    · rintro (whole | boundary)
      · exact .inr ⟨more, rfl, .inl (Nat.add_left_cancel whole)⟩
      · exact .inr ⟨more, rfl, .inr boundary⟩
    · rintro (start | ⟨other, same, boundary⟩)
      · rw [List.length_cons] at start
        omega
      · obtain rfl := Nat.add_left_cancel same
        exact boundary.imp_left (congrArg _)

theorem isBoundary_iff {text : List Char} {byte : Nat} :
    IsBoundary text byte ↔ ∃ position : Position text, position.byte = byte := by
  induction text generalizing byte with
  | nil =>
    constructor
    · rintro (whole | ⟨b, found, _⟩)
      · exact ⟨⟨[], [], rfl⟩, whole.symm⟩
      · cases found
    · rintro ⟨⟨before, behind, split⟩, rfl⟩
      obtain ⟨rfl, rfl⟩ := List.append_eq_nil_iff.mp split.symm
      exact .inl rfl
  | cons c text ih =>
    rw [isBoundary_cons]
    constructor
    · rintro (rfl | ⟨more, rfl, boundary⟩)
      · exact ⟨⟨[], c :: text, rfl⟩, rfl⟩
      · obtain ⟨⟨before, behind, rfl⟩, rfl⟩ := ih.mp boundary
        exact ⟨⟨c :: before, behind, rfl⟩, size_cons c before⟩
    · rintro ⟨⟨before, behind, split⟩, rfl⟩
      cases before with
      | nil => exact .inl rfl
      | cons d before =>
        obtain ⟨rfl, below⟩ := List.cons.inj split
        exact .inr ⟨size before, size_cons c before, ih.mpr ⟨⟨before, behind, below⟩, rfl⟩⟩

/-- The bytes at the boundaries of a text are those of its positions, each of one position; and the line
and column of a position lead back to its byte. -/
theorem of_lineColumn (text : List Char) :
    (∀ byte, IsBoundary text byte ↔ ∃! position : Position text, position.byte = byte) ∧
      ∀ position : Position text, of text position.line position.column = position.byte := by
  constructor
  · intro byte
    rw [isBoundary_iff]
    constructor
    · rintro ⟨position, rfl⟩
      exact ⟨position, rfl, fun _ same => Position.eq_of_byte_eq same⟩
    · exact ExistsUnique.exists
  · intro position
    obtain ⟨line, starts, inside⟩ := position.exists_line
    have within : position.column ≤ line.content.length + 1 :=
      Nat.add_le_add_right inside.length_le 1
    rw [line.of_eq_clamped (.inl within), ← starts, Line.clamped, ← List.take_eq_take_min]
    obtain ⟨more, content⟩ := inside
    rw [← content, Position.column, Nat.add_sub_cancel, List.take_left]

end Offset

end StrictFiles
