import StrictFiles.Proofs.LocatedLines

/-!
All ways of cutting a line of compiler output. A line that holds several locations can be cut in front of
and behind each of them. The cut with the longest file alone decides what is read: when its numbers do not
fit, no shorter one is taken in its place.
-/

namespace StrictFiles

namespace CompilerOutput

/-- A way of cutting a line around a location, with at least one character in front of that. -/
structure Split (text : List Char) where
  file : List Char
  location : Location
  message : List Char
  nonempty : file ≠ []
  whole : text = file ++ (location.text ++ message)

namespace Split

variable {text : List Char}

/-- No other cut has a longer file. -/
def IsLongest (split : Split text) : Prop :=
  ∀ other : Split text, other.file.length ≤ split.file.length

/-- The cut at another location, in the message of this one. -/
def further (split : Split text) {before behind : List Char} {location : Location}
    (quoted : split.message = before ++ (location.text ++ behind)) : Split text where
  file := split.file ++ (split.location.text ++ before)
  location
  message := behind
  nonempty := by simp [split.nonempty]
  whole := by
    have whole := split.whole
    rw [quoted] at whole
    simpa only [List.append_assoc] using whole

theorem length_lt_further (split : Split text) {before behind : List Char} {location : Location}
    (quoted : split.message = before ++ (location.text ++ behind)) :
    split.file.length < (split.further quoted).file.length := by
  have opened : 0 < split.location.text.length := Nat.succ_pos _
  simp only [further, List.length_append]
  omega

/-- A longer file takes in the bracket that opens the location, so its own location stands in the
message. -/
theorem holdsLocation_of_longer (split other : Split text)
    (longer : split.file.length < other.file.length) : HoldsLocation split.message := by
  have here : split.file <+: text := ⟨_, split.whole.symm⟩
  have there : other.file <+: text := ⟨_, other.whole.symm⟩
  obtain ⟨more, file⟩ := List.prefix_of_prefix_length_le here there (by omega)
  have same : split.location.text ++ split.message =
      more ++ (other.location.text ++ other.message) := by
    have both := split.whole.symm.trans other.whole
    rw [← file, List.append_assoc] at both
    exact List.append_cancel_left both
  cases more with
  | nil =>
    rw [List.append_nil] at file
    rw [file] at longer
    omega
  | cons c more =>
    have behind := (List.cons.inj same).2
    have holds : HoldsLocation (split.location.rest ++ split.message) := ⟨more, _, _, behind⟩
    rwa [holdsLocation_append_of_no_bracket split.location.bracket_not_mem_rest] at holds

theorem isLongest_iff (split : Split text) : split.IsLongest ↔ ¬ HoldsLocation split.message := by
  constructor
  · rintro longest ⟨before, location, behind, quoted⟩
    have bounded := longest (split.further quoted)
    have longer := split.length_lt_further quoted
    omega
  · intro plain other
    by_contra longer
    exact plain (split.holdsLocation_of_longer other (by omega))

/-- A line is cut where its file is longest. -/
theorem locatedLine?_of_longest (split : Split text) (longest : split.IsLongest) :
    locatedLine? text = some (split.location.between split.file split.message) := by
  have cut := locatedLine?_between split.nonempty split.location (split.isLongest_iff.mp longest)
  rwa [← split.whole] at cut

theorem eq_of_longest {split other : Split text} (longest : split.IsLongest)
    (otherLongest : other.IsLongest) : split = other := by
  have same := (split.locatedLine?_of_longest longest).symm.trans
    (other.locatedLine?_of_longest otherLongest)
  obtain ⟨file, ⟨line, column, category, code, _⟩, message, _, _⟩ := split
  obtain ⟨otherFile, ⟨otherLine, otherColumn, otherCategory, otherCode, _⟩, otherMessage, _, _⟩ := other
  simp only [Location.between, Option.some.injEq, LocatedLine.mk.injEq] at same
  obtain ⟨rfl, rfl, rfl, rfl, rfl, rfl⟩ := same
  rfl

end Split

/-- Of the locations in a text one has none behind it. -/
theorem HoldsLocation.exists_last {text : List Char} (holds : HoldsLocation text) :
    ∃ before, ∃ location : Location, ∃ behind,
      text = before ++ (location.text ++ behind) ∧ ¬ HoldsLocation behind := by
  induction text with
  | nil => exact (not_holdsLocation_nil holds).elim
  | cons c rest ih =>
    by_cases later : HoldsLocation rest
    · obtain ⟨before, location, behind, cut, plain⟩ := ih later
      exact ⟨c :: before, location, behind, by rw [cut, List.cons_append], plain⟩
    · obtain ⟨location, behind, cut⟩ := (holdsLocation_cons.mp holds).resolve_right later
      refine ⟨[], location, behind, cut, ?_⟩
      intro inside
      have rest : rest = location.rest ++ behind := (List.cons.inj cut).2
      rw [rest, holdsLocation_append_of_no_bracket location.bracket_not_mem_rest] at later
      exact later inside

theorem Split.exists_longest {text : List Char} (split : Split text) :
    ∃ longest : Split text, longest.IsLongest := by
  by_cases holds : HoldsLocation split.message
  · obtain ⟨before, location, behind, quoted, plain⟩ := holds.exists_last
    exact ⟨split.further quoted, (split.further quoted).isLongest_iff.mpr plain⟩
  · exact ⟨split, split.isLongest_iff.mpr holds⟩

/-- A line that can not be cut gives nothing. -/
theorem locatedLine?_of_isEmpty {text : List Char} (none : IsEmpty (Split text)) :
    locatedLine? text = .none := by
  rw [locatedLine?_eq_none]
  rintro ⟨before, location, behind, cut⟩
  cases text with
  | nil => simp [Location.text] at cut
  | cons c rest =>
    rw [List.tail_cons] at cut
    have split : Split (c :: rest) :=
      ⟨c :: before, location, behind, List.cons_ne_nil _ _, by rw [cut, List.cons_append]⟩
    exact none.elim split

section Numbers

/-- The number that digits `0` to `9` spell. -/
def value (digits : List Char) : Nat :=
  Nat.ofDigitChars 10 digits 0

/-- Digits `0` to `9` alone, that spell a number of 32 bits. -/
def IsNumber (digits : List Char) : Prop :=
  (∀ c ∈ digits, c.isDigit = true) ∧ value digits < 0x100000000

theorem isNumber_iff {digits : List Char} :
    IsNumber digits ↔ digits.all Char.isDigit = true ∧ value digits < 0x100000000 :=
  and_congr_left' List.all_eq_true.symm

-- Decided on the characters of the text: left to itself the search finds all characters there are.
instance (digits : List Char) : Decidable (IsNumber digits) :=
  decidable_of_iff' (digits.all Char.isDigit = true ∧ value digits < 0x100000000) isNumber_iff

theorem number?_eq (digits : List Char) :
    number? digits = if IsNumber digits then some (value digits) else none := by
  have spelt : digits.foldl (fun n c => n * 10 + (c.toNat - '0'.toNat)) 0 = value digits := by
    simp only [value, Nat.ofDigitChars, Nat.mul_comm]
  unfold number?
  rw [spelt]
  by_cases ascii : digits.all Char.isDigit = true
  · have small : IsNumber digits ↔ value digits < 0x100000000 :=
      isNumber_iff.trans (and_iff_right ascii)
    rw [if_pos ascii, if_congr small rfl rfl]
  · have other : ¬ IsNumber digits := fun number => ascii (isNumber_iff.mp number).1
    rw [if_neg ascii, if_neg other]

end Numbers

namespace Split

variable {text : List Char} (split : Split text)

/-- The line, the column and the code of a cut are all numbers. -/
def IsNumbered : Prop :=
  IsNumber split.location.line ∧ IsNumber split.location.column ∧ IsNumber split.location.code

/-- The diagnostic of a cut, its digits taken for numbers. -/
def diagnostic : Reported where
  file := split.file
  line := value split.location.line
  column := value split.location.column
  code := value split.location.code
  message := split.message

variable {split}

theorem reported?_of_numbered (longest : split.IsLongest) (numbered : split.IsNumbered) :
    reported? text = some split.diagnostic := by
  obtain ⟨line, column, code⟩ := numbered
  unfold reported?
  rw [split.locatedLine?_of_longest longest]
  simp only [Location.between, Option.bind_eq_bind, Option.bind_some, number?_eq, if_pos line,
    if_pos column, if_pos code]
  rfl

theorem isNumbered_of_reported? (longest : split.IsLongest) {found : Reported}
    (read : reported? text = some found) : split.IsNumbered := by
  unfold reported? at read
  rw [split.locatedLine?_of_longest longest] at read
  simp only [Location.between, Option.bind_eq_bind, Option.bind_some, number?_eq,
    Option.bind_eq_some_iff, Option.ite_none_right_eq_some] at read
  obtain ⟨_, ⟨line, _⟩, _, ⟨column, _⟩, _, ⟨code, _⟩, _⟩ := read
  exact ⟨line, column, code⟩

end Split

/-- A line that can not be cut gives no diagnostic. Of the cuts of any other line exactly one has the
longest file, and that one decides: the line gives the diagnostic of this cut, whose parts put together
are the line, and gives nothing if and only if one of the digit runs is no number of 32 bits in ASCII. -/
theorem line_read_by_longest_split (text : List Char) :
    (IsEmpty (Split text) → reported? text = none) ∧
    (Nonempty (Split text) → ∃! split : Split text, split.IsLongest) ∧
    ∀ split : Split text, split.IsLongest →
      text = split.file ++ (split.location.text ++ split.message) ∧
      (reported? text = none ↔ ¬ (IsNumber split.location.line ∧ IsNumber split.location.column ∧
        IsNumber split.location.code)) ∧
      (IsNumber split.location.line ∧ IsNumber split.location.column ∧ IsNumber split.location.code →
        reported? text = some ⟨split.file, value split.location.line, value split.location.column,
          value split.location.code, split.message⟩) := by
  refine ⟨?_, ?_, ?_⟩
  · intro uncut
    unfold reported?
    rw [locatedLine?_of_isEmpty uncut]
    rfl
  · rintro ⟨split⟩
    obtain ⟨longest, isLongest⟩ := split.exists_longest
    exact ⟨longest, isLongest, fun other otherLongest => Split.eq_of_longest otherLongest isLongest⟩
  · intro split longest
    refine ⟨split.whole, ?_, Split.reported?_of_numbered longest⟩
    rw [Option.eq_none_iff_forall_ne_some]
    constructor
    · intro none numbered
      exact none _ (Split.reported?_of_numbered longest numbered)
    · intro other found read
      exact other (Split.isNumbered_of_reported? longest read)

/-- The line of `a` whose message holds a line of `b`: the numbers of the first location are fine, but the
second one decides, and its column is past 32 bits. -/
theorem line_read_by_longest_split_wideNumber :
    let text := "a(1,2): error TS3: b(4,4294967296): message TS5: x".toList
    (∃ split : Split text, split.file = ['a'] ∧ split.IsNumbered) ∧
      (∃ split : Split text, split.file = "a(1,2): error TS3: b".toList ∧ split.IsLongest) ∧
      reported? text = none := by
  intro text
  let shorter : Split text := ⟨['a'], .printed 1 2 .error 3,
    "b(4,4294967296): message TS5: x".toList, by decide, by decide⟩
  let longer : Split text := ⟨"a(1,2): error TS3: b".toList, .printed 4 4294967296 .message 5, ['x'],
    by decide, by decide⟩
  have numbered : shorter.IsNumbered := by
    unfold Split.IsNumbered
    decide
  have longest : longer.IsLongest := longer.isLongest_iff.mpr (lastLocation?_eq_none.mp rfl)
  obtain ⟨_, _, decides⟩ := line_read_by_longest_split text
  refine ⟨⟨shorter, rfl, numbered⟩, ⟨longer, rfl, longest⟩, (decides longer longest).2.1.mpr ?_⟩
  decide

end CompilerOutput

end StrictFiles
