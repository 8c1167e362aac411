import Mathlib.Data.List.Basic
import StrictFiles.Discovery.Files
import StrictFiles.Proofs.PathSpelling

/-!
The pattern that is made for an extension. It selects by the last name on a way alone: by whether it
ends in a point and the extension.
-/

namespace StrictFiles

namespace Glob

/-- The characters that mean something in a pattern. -/
def special : List Char := ['*', '?', '[', ']', '\x7b', '\x7d', '\\', '/', ',']

/-- Text that stands for itself wherever it is in a pattern: no character means something, and none is
a blank, as those at the end are trimmed. -/
def IsLiteral (text : List Char) : Prop :=
  ∀ c ∈ text, c ∉ special ∧ CharClass.blank.has c = false

instance (text : List Char) : Decidable (IsLiteral text) :=
  text.decidableBAll fun c => c ∉ special ∧ CharClass.blank.has c = false

/-- The tokens of text that stands for itself. -/
def literal (text : List Char) : List GlobToken :=
  text.map fun c => .bytes (Utf8.encodeChar c)

section Reading

theorem readTokens_literal {text : List Char} (plain : IsLiteral text) {steps : Nat}
    (enough : text.length ≤ steps) (tokens : List GlobToken) (previous : Option Char) :
    readTokens steps ⟨[], tokens, previous⟩ text = .ok (tokens.reverse ++ literal text) := by
  induction text generalizing steps tokens previous with
  | nil => simp [readTokens, literal]
  | cons c rest ih =>
    obtain ⟨here, behind⟩ := List.forall_mem_cons.mp plain
    obtain ⟨left, rfl⟩ := Nat.exists_eq_add_of_lt enough
    have read := ih behind (Nat.le_add_right rest.length left) (.bytes (Utf8.encodeChar c) :: tokens)
      (some c)
    rw [List.reverse_cons, List.append_assoc] at read
    have ordinary := here.1
    unfold readTokens
    split
    all_goals first
      | exact read
      | simp [special] at ordinary

/-- Two stars and a slash span whole segments, one star stays inside the next. -/
theorem readPattern_anywhere {ending : List Char} (plain : IsLiteral ending) :
    readPattern ("**/*.".toList ++ ending) =
      .ok (.leadingSegments :: .many :: literal ('.' :: ending)) := by
  have literals : IsLiteral ('.' :: ending) := List.forall_mem_cons.mpr ⟨by decide, plain⟩
  have enough : ('.' :: ending).length ≤ ending.length + 3 := by simp
  have front : "**/*.".toList = ['*', '*', '/', '*', '.'] := by rfl
  have read := readTokens_literal literals enough [.many, .leadingSegments] (some '*')
  rw [front, readPattern]
  exact read

theorem trimmed_of_getLast? {line : List Char} {last : Char} (ends : line.getLast? = some last)
    (solid : CharClass.blank.has last = false) : trimmed line = line := by
  obtain ⟨front, rfl⟩ := List.getLast?_eq_some_iff.mp ends
  have noBlank : ' ' ≠ last := by
    rintro rfl
    exact absurd solid (by decide)
  rw [trimmed, List.reverse_concat, List.isPrefixOf_cons_cons, beq_false_of_ne noBlank, Bool.false_and,
    if_neg Bool.false_ne_true, List.dropWhile_cons_of_neg (by simp [solid]), List.reverse_cons,
    List.reverse_reverse]

/-- A line whose last character means nothing is read as it stands. -/
theorem ofLine_of_getLast? {line : List Char} {last : Char} (ends : line.getLast? = some last)
    (ordinary : last ∉ special) {tokens : List GlobToken} (read : readPattern line = .ok tokens) :
    ofLine line = .ok ⟨tokens, false⟩ := by
  have noSlash : line.getLast? ≠ some '/' := by
    rw [ends]
    rintro ⟨⟩
    exact ordinary (by decide)
  have noStar : "**/".toList.isPrefixOf line.reverse = false := by
    obtain ⟨front, rfl⟩ := List.getLast?_eq_some_iff.mp ends
    have star : '*' ≠ last := by
      rintro rfl
      exact ordinary (by decide)
    have tail : "**/".toList = ['*', '*', '/'] := by rfl
    rw [tail, List.reverse_concat, List.isPrefixOf_cons_cons, beq_false_of_ne star, Bool.false_and]
  rw [ofLine]
  simp only [noSlash, decide_false, Bool.false_eq_true, if_false, noStar, read]

end Reading

section Matching

variable {token : GlobToken} {tokens : List GlobToken} {text left : Bytes}

theorem mem_leavesAfter_cons :
    left ∈ leavesAfter (token :: tokens) text ↔
      ∃ rest ∈ leaves token text, left ∈ leavesAfter tokens rest := by
  rw [leavesAfter, List.mem_eraseDups, List.mem_flatMap]

theorem stripBytes_eq_some {spelling : Bytes} :
    stripBytes spelling text = some left ↔ text = spelling ++ left := by
  induction spelling generalizing text with
  | nil => simp [stripBytes]
  | cons s spelling ih =>
    cases text with
    | nil => simp [stripBytes]
    | cons b rest =>
      rw [stripBytes, List.cons_append, List.cons.injEq]
      split
      · rename_i same
        rw [ih, and_iff_right same.symm]
      · rename_i other
        exact iff_of_false nofun fun same => other same.1.symm

theorem mem_leavesAfter_literal {chars : List Char} :
    left ∈ leavesAfter (literal chars) text ↔ text = Utf8.encode chars ++ left := by
  induction chars generalizing text with
  | nil => simp [literal, leavesAfter, Utf8.encode, eq_comm]
  | cons c chars ih =>
    rw [literal, List.map_cons, ← literal, mem_leavesAfter_cons]
    simp only [leaves, Option.mem_toList, stripBytes_eq_some, ih]
    simp [Utf8.encode]

theorem mem_restsInSegment :
    left ∈ restsInSegment text ↔ ∃ before, slash ∉ before ∧ text = before ++ left := by
  induction text with
  | nil =>
    rw [restsInSegment, List.mem_singleton]
    constructor
    · rintro rfl
      exact ⟨[], List.not_mem_nil, rfl⟩
    · rintro ⟨before, _, whole⟩
      exact (List.nil_eq_append_iff.mp whole).2
  | cons b rest ih =>
    -- What is left of the whole text is the text itself, or it is left behind the first byte.
    have split : (∃ before, slash ∉ before ∧ b :: rest = before ++ left) ↔
        left = b :: rest ∨ b ≠ slash ∧ ∃ before, slash ∉ before ∧ rest = before ++ left := by
      constructor
      · rintro ⟨before, plain, whole⟩
        rcases List.cons_eq_append_iff.mp whole with ⟨rfl, rfl⟩ | ⟨behind, rfl, rfl⟩
        · exact .inl rfl
        · rw [List.mem_cons, not_or] at plain
          exact .inr ⟨Ne.symm plain.1, behind, plain.2, rfl⟩
      · rintro (rfl | ⟨noSlash, before, plain, rfl⟩)
        · exact ⟨[], List.not_mem_nil, rfl⟩
        · refine ⟨b :: before, ?_, rfl⟩
          rw [List.mem_cons, not_or]
          exact ⟨Ne.symm noSlash, plain⟩
    rw [split, restsInSegment]
    by_cases here : b = slash
    · simp [here]
    · rw [if_neg here, List.mem_cons, ih, and_iff_right here]

theorem mem_restsBehindSlash :
    left ∈ restsBehindSlash text ↔ ∃ before, text = before ++ slash :: left := by
  induction text with
  | nil => simp [restsBehindSlash]
  | cons b rest ih =>
    have split : (∃ before, b :: rest = before ++ slash :: left) ↔
        b = slash ∧ left = rest ∨ ∃ before, rest = before ++ slash :: left := by
      constructor
      · rintro ⟨before, whole⟩
        rcases List.cons_eq_append_iff.mp whole with ⟨rfl, same⟩ | ⟨behind, rfl, rfl⟩
        · cases same
          exact .inl ⟨rfl, rfl⟩
        · exact .inr ⟨behind, rfl⟩
      · rintro (⟨rfl, rfl⟩ | ⟨before, rfl⟩)
        · exact ⟨[], rfl⟩
        · exact ⟨b :: before, rfl⟩
    rw [split, restsBehindSlash]
    by_cases here : b = slash
    · rw [if_pos here, List.mem_cons, ih, and_iff_right here]
    · rw [if_neg here, ih, or_iff_right fun both => here both.1]

/-- What is matched anywhere is matched at the end of the text: whatever stands before it is some
segments and the start of another one. -/
theorem matchesAll_anywhere {ending : List Char} :
    matchesAll (.leadingSegments :: .many :: literal ending) text = true ↔
      Utf8.encode ending <:+ text := by
  rw [matchesAll, decide_eq_true_iff]
  simp only [mem_leavesAfter_cons, leaves, List.mem_cons, mem_restsBehindSlash, mem_restsInSegment,
    mem_leavesAfter_literal, List.append_nil]
  constructor
  · rintro ⟨segment, place, _, ⟨before, _, rfl⟩, rfl⟩
    rcases place with rfl | ⟨above, rfl⟩
    · exact List.suffix_append _ _
    · exact ⟨above ++ slash :: before, by simp⟩
  · rintro ⟨before, rfl⟩
    by_cases inside : slash ∈ before
    · -- The segment starts behind the last slash.
      obtain ⟨behind, above, cut, plain⟩ :=
        List.eq_append_cons_of_mem (List.mem_reverse.mpr inside)
      have whole : before = above.reverse ++ slash :: behind.reverse := by
        rw [← List.reverse_reverse before, cut]
        simp
      refine ⟨behind.reverse ++ Utf8.encode ending, .inr ⟨above.reverse, by simp [whole]⟩, _,
        ⟨behind.reverse, ?_, rfl⟩, rfl⟩
      rwa [List.mem_reverse]
    · exact ⟨_, .inl rfl, _, ⟨before, inside, rfl⟩, rfl⟩

end Matching

end Glob

namespace Utf8

theorem slash_mem_encode {text : List Char} (spelt : slash ∈ encode text) : '/' ∈ text := by
  rw [encode, List.mem_flatMap] at spelt
  obtain ⟨c, among, spelt⟩ := spelt
  have number : c.toNat = '/'.toNat := (encodeChar_spelling c).ascii spelt (by decide)
  rwa [← Char.toNat_inj.mp number]

end Utf8

namespace Path

/-- The last piece stands alone or behind a slash. -/
theorem joinSlashes_concat (pieces : List Bytes) (last : Bytes) :
    joinSlashes (pieces ++ [last]) = last ∨
      ∃ above, joinSlashes (pieces ++ [last]) = above ++ slash :: last := by
  induction pieces with
  | nil => exact .inl rfl
  | cons piece pieces ih =>
    right
    obtain ⟨next, rest, behind⟩ : ∃ next rest, pieces ++ [last] = next :: rest :=
      List.exists_cons_of_ne_nil (by simp)
    rw [List.cons_append, behind, joinSlashes, ← behind]
    · rcases ih with same | ⟨above, same⟩
      · exact ⟨piece, by rw [same]⟩
      · exact ⟨piece ++ slash :: above, by rw [same]; simp⟩
    · simp

end Path

namespace Discovery

theorem suffix_behind_slash {above last ending : Bytes} (plain : slash ∉ ending) :
    ending <:+ above ++ slash :: last ↔ ending <:+ last := by
  constructor
  · intro ends
    rcases List.suffix_or_suffix_of_suffix ends (List.suffix_append above (slash :: last)) with
      inside | beyond
    · rcases List.suffix_cons_iff.mp inside with rfl | within
      · exact (plain List.mem_cons_self).elim
      · exact within
    · exact (plain (beyond.subset List.mem_cons_self)).elim
  · intro ends
    exact ends.trans ((List.suffix_cons slash last).trans (List.suffix_append above _))

/-- Bytes without a slash end the text of a way when they end its last name. -/
theorem suffix_wayText {ending : Bytes} (plain : slash ∉ ending) (nonempty : ending ≠ [])
    (way : List Name) :
    ending <:+ wayText way ↔ ∃ name, way.getLast? = some name ∧ ending <:+ name.bytes := by
  rcases List.eq_nil_or_concat' way with rfl | ⟨front, name, rfl⟩
  · exact iff_of_false (fun ends => nonempty (List.suffix_nil.mp ends)) (by simp)
  · have text : wayText (front ++ [name]) = Path.joinSlashes (front.map Name.bytes ++ [name.bytes]) := by
      rw [wayText, Path.toBytes, List.map_append]
      rfl
    rw [text]
    simp only [List.getLast?_concat, Option.some.injEq, exists_eq_left']
    rcases Path.joinSlashes_concat (front.map Name.bytes) name.bytes with same | ⟨above, same⟩
    · rw [same]
    · rw [same, suffix_behind_slash plain]

/-- An extension without the points in front of it. -/
def bare (extension : String) : List Char :=
  extension.toList.dropWhile (· = '.')

/-- A name ends in a point and the extension, whatever points the extension comes with. -/
def HasExtension (name : Name) (extension : String) : Prop :=
  Utf8.encode ('.' :: bare extension) <:+ name.bytes

/-- The pattern of an extension that stands for itself. -/
def extensionGlob (extension : String) : Glob where
  tokens := .leadingSegments :: .many :: Glob.literal ('.' :: bare extension)
  directoriesOnly := false

section Extension

variable {extension : String} (plain : Glob.IsLiteral extension.toList)

include plain

theorem literal_bare : Glob.IsLiteral (bare extension) :=
  fun c among => plain c ((List.dropWhile_sublist _).subset among)

theorem ofLine_patternLine : Glob.ofLine (patternLine extension) = .ok (extensionGlob extension) := by
  have literal := literal_bare plain
  obtain ⟨last, ends, ordinary⟩ : ∃ last,
      ("**/*.".toList ++ bare extension).getLast? = some last ∧
        last ∉ Glob.special ∧ CharClass.blank.has last = false := by
    rw [List.getLast?_append]
    cases ends : (bare extension).getLast? with
    | none => exact ⟨'.', rfl, by decide⟩
    | some last => exact ⟨last, rfl, literal last (List.mem_of_getLast? ends)⟩
  have line : patternLine extension = "**/*.".toList ++ bare extension :=
    Glob.trimmed_of_getLast? ends ordinary.2
  rw [line]
  exact Glob.ofLine_of_getLast? ends ordinary.1 (Glob.readPattern_anywhere literal)

/-- A file is selected by its last name. -/
theorem selectsFile_extensionGlob (way : List Name) :
    (extensionGlob extension).selectsFile (wayText way) = true ↔
      ∃ name, way.getLast? = some name ∧ HasExtension name extension := by
  have noSlash : slash ∉ Utf8.encode ('.' :: bare extension) := by
    intro spelt
    rcases List.mem_cons.mp (Utf8.slash_mem_encode spelt) with point | inside
    · exact absurd point (by decide)
    · exact absurd (literal_bare plain '/' inside).1 (by decide)
  have nonempty : Utf8.encode ('.' :: bare extension) ≠ [] := by
    simp [Utf8.encode, Utf8.encodeChar]
  rw [Glob.selectsFile, extensionGlob, Bool.not_false, Bool.true_and, Glob.matchesAll_anywhere,
    suffix_wayText noSlash nonempty]
  rfl

end Extension

theorem globs_of_literal {extensions : List String}
    (plain : ∀ extension ∈ extensions, Glob.IsLiteral extension.toList) :
    globs extensions = .ok (extensions.map extensionGlob) := by
  induction extensions with
  | nil => rfl
  | cons extension rest ih =>
    obtain ⟨here, behind⟩ := List.forall_mem_cons.mp plain
    rw [globs, ofLine_patternLine here, ih behind]
    rfl

end Discovery

end StrictFiles
