import Mathlib.Data.List.TakeDrop
import Mathlib.Data.List.TakeWhile
import StrictFiles.Compiler.Output

/-!
Where a line of compiler output is cut. What stands between a file and a message has a form of its own,
and of several places of that form the last one counts: a line is cut in front of its message whenever
the message holds no such place.
-/

namespace StrictFiles

namespace CompilerOutput

/-- A run of decimal digits of any script. -/
def IsDigits (text : List Char) : Prop :=
  text ≠ [] ∧ ∀ c ∈ text, CharClass.decimalDigit.has c = true

/-- What stands on a line between its file and its message. -/
structure Location where
  line : List Char
  column : List Char
  category : Category
  code : List Char
  numbered : IsDigits line ∧ IsDigits column ∧ IsDigits code

namespace Location

/-- How a location is written, behind its first character. -/
def rest (location : Location) : List Char :=
  location.line ++ ',' :: (location.column ++ ([')', ':', ' '] ++ (location.category.text ++
    ([' ', 'T', 'S'] ++ (location.code ++ [':', ' '])))))

def text (location : Location) : List Char :=
  '(' :: location.rest

/-- A location ends with the blank in front of the message. -/
theorem text_eq_append (location : Location) : ∃ front, location.text = front ++ [' '] := by
  refine ⟨'(' :: (location.line ++ ',' :: (location.column ++ ([')', ':', ' '] ++
    (location.category.text ++ ([' ', 'T', 'S'] ++ (location.code ++ [':'])))))), ?_⟩
  simp [text, rest]

/-- The line that has this location between a file and a message. -/
def between (location : Location) (file message : List Char) : LocatedLine :=
  { file, line := location.line, column := location.column, category := location.category,
    code := location.code, message }

end Location

/-- Somewhere in the text stands a location. -/
def HoldsLocation (text : List Char) : Prop :=
  ∃ before, ∃ location : Location, ∃ behind, text = before ++ (location.text ++ behind)

section Parts

theorem behind?_eq_some {start text rest : List Char} :
    behind? start text = some rest ↔ text = start ++ rest := by
  induction start generalizing text with
  | nil => simp [behind?]
  | cons s start ih =>
    cases text with
    | nil => simp [behind?]
    | cons c text =>
      rw [behind?]
      by_cases same : s = c
      · simp [same, ih]
      · simp [same, Ne.symm same]

theorem digits?_eq_some {text digits rest : List Char} (found : digits? text = some (digits, rest)) :
    IsDigits digits ∧ text = digits ++ rest := by
  rw [digits?, List.span_eq_takeWhile_dropWhile] at found
  have whole := List.takeWhile_append_dropWhile (p := CharClass.decimalDigit.has) (l := text)
  split at found
  · cases found
  · rename_i nonempty cut
    cases found
    obtain ⟨taken, dropped⟩ := Prod.mk.inj cut
    refine ⟨⟨?_, ?_⟩, ?_⟩
    · rintro rfl
      exact nonempty rfl
    · rw [← taken]
      exact fun c among => List.mem_takeWhile_imp among
    · rw [← taken, ← dropped, whole]

/-- Digits are read up to the first character that is none. -/
theorem digits?_append {digits : List Char} (all : IsDigits digits) {c : Char}
    (noDigit : CharClass.decimalDigit.has c = false) (rest : List Char) :
    digits? (digits ++ c :: rest) = some (digits, c :: rest) := by
  have taken : (digits ++ c :: rest).takeWhile CharClass.decimalDigit.has = digits := by
    rw [List.takeWhile_append_of_pos all.2, List.takeWhile_cons_of_neg (by simp [noDigit]),
      List.append_nil]
  have dropped : (digits ++ c :: rest).dropWhile CharClass.decimalDigit.has = c :: rest := by
    rw [List.dropWhile_append_of_pos all.2, List.dropWhile_cons_of_neg (by simp [noDigit])]
  rw [digits?, List.span_eq_takeWhile_dropWhile, taken, dropped]
  split
  · rename_i cut
    exact (all.1 (Prod.mk.inj cut).1).elim
  · rename_i cut
    rw [← cut]

theorem category?_eq_some {text rest : List Char} {category : Category}
    (found : category? text = some (category, rest)) : text = category.text ++ rest := by
  obtain ⟨known, _, read⟩ := List.exists_of_findSome?_eq_some found
  obtain ⟨behind, starts, same⟩ := Option.map_eq_some_iff.mp read
  cases same
  exact behind?_eq_some.mp starts

/-- The four words start with different letters, so each is read as itself. -/
theorem category?_append (category : Category) (rest : List Char) :
    category? (category.text ++ rest) = some (category, rest) := by
  cases category <;> rfl

end Parts

/-- A location is read where it stands, and nothing else is. -/
theorem location?_eq_some {text : List Char} {located : LocatedLine} :
    location? text = some located ↔
      ∃ (location : Location) (message : List Char), text = location.text ++ message ∧
        located = location.between [] message := by
  constructor
  · intro found
    simp only [location?, Option.bind_eq_bind, Option.bind_eq_some_iff] at found
    obtain ⟨_, opened, ⟨line, _⟩, lineRead, _, comma, ⟨column, _⟩, columnRead, _, closed,
      ⟨category, _⟩, categoryRead, _, named, ⟨code, _⟩, codeRead, message, colon, same⟩ := found
    dsimp only at comma closed named colon same
    obtain ⟨lineDigits, lineSpelt⟩ := digits?_eq_some lineRead
    obtain ⟨columnDigits, columnSpelt⟩ := digits?_eq_some columnRead
    obtain ⟨codeDigits, codeSpelt⟩ := digits?_eq_some codeRead
    refine ⟨⟨line, column, category, code, lineDigits, columnDigits, codeDigits⟩, message, ?_,
      (Option.some.inj same).symm⟩
    rw [behind?_eq_some.mp opened, lineSpelt, behind?_eq_some.mp comma, columnSpelt,
      behind?_eq_some.mp closed, category?_eq_some categoryRead, behind?_eq_some.mp named,
      codeSpelt, behind?_eq_some.mp colon]
    simp [Location.text, Location.rest]
  · rintro ⟨location, message, rfl, rfl⟩
    obtain ⟨line, column, code⟩ := location.numbered
    have comma : CharClass.decimalDigit.has ',' = false := by decide
    have bracket : CharClass.decimalDigit.has ')' = false := by decide
    have colon : CharClass.decimalDigit.has ':' = false := by decide
    simp only [location?, Location.text, Location.rest, List.cons_append, List.append_assoc,
      List.nil_append, behind?, if_true, Option.bind_eq_bind, Option.bind_some]
    rw [digits?_append line comma]
    simp only [behind?, if_true, Option.bind_some]
    rw [digits?_append column bracket]
    simp only [behind?, if_true, Option.bind_some]
    rw [category?_append]
    simp only [behind?, if_true, Option.bind_some]
    rw [digits?_append code colon]
    simp only [behind?, if_true, Option.bind_some]
    rfl

section LastPlace

theorem not_holdsLocation_nil : ¬ HoldsLocation [] := by
  rintro ⟨before, location, behind, empty⟩
  simp [Location.text] at empty

/-- A location in a text starts at its first character or lies behind that. -/
theorem holdsLocation_cons {c : Char} {rest : List Char} :
    HoldsLocation (c :: rest) ↔
      (∃ (location : Location) (behind : List Char), c :: rest = location.text ++ behind) ∨
        HoldsLocation rest := by
  constructor
  · rintro ⟨before, location, behind, cut⟩
    cases before with
    | nil => exact .inl ⟨location, behind, cut⟩
    | cons first before => exact .inr ⟨before, location, behind, (List.cons.inj cut).2⟩
  · rintro (⟨location, behind, cut⟩ | ⟨before, location, behind, rfl⟩)
    · exact ⟨[], location, behind, cut⟩
    · exact ⟨c :: before, location, behind, rfl⟩

theorem HoldsLocation.append {text : List Char} (holds : HoldsLocation text) (behind : List Char) :
    HoldsLocation (text ++ behind) := by
  obtain ⟨before, location, rest, rfl⟩ := holds
  exact ⟨before, location, rest ++ behind, by simp⟩

/-- A location starts with a bracket, so a text in front without any adds none. -/
theorem holdsLocation_append_of_no_bracket {start rest : List Char} (plain : '(' ∉ start) :
    HoldsLocation (start ++ rest) ↔ HoldsLocation rest := by
  induction start with
  | nil => rfl
  | cons c start ih =>
    rw [List.mem_cons, not_or] at plain
    rw [List.cons_append, holdsLocation_cons, ih plain.2, or_iff_right]
    rintro ⟨location, behind, cut⟩
    exact plain.1 (List.cons.inj cut).1.symm

theorem lastLocation?_eq_none {text : List Char} :
    lastLocation? text = none ↔ ¬ HoldsLocation text := by
  induction text with
  | nil => exact iff_of_true rfl not_holdsLocation_nil
  | cons c rest ih =>
    rw [lastLocation?, holdsLocation_cons, not_or, ← ih]
    cases lastLocation? rest with
    | some located => simp
    | none =>
      dsimp only
      rw [and_iff_left rfl, Option.eq_none_iff_forall_ne_some]
      constructor
      · rintro none ⟨location, behind, cut⟩
        exact none _ (location?_eq_some.mpr ⟨location, behind, cut, rfl⟩)
      · intro absent located found
        obtain ⟨location, behind, cut, _⟩ := location?_eq_some.mp found
        exact absent ⟨location, behind, cut⟩

/-- What stands in front of the last location belongs to its file. -/
theorem lastLocation?_append {rest : List Char} {located : LocatedLine}
    (last : lastLocation? rest = some located) (start : List Char) :
    lastLocation? (start ++ rest) = some { located with file := start ++ located.file } := by
  induction start with
  | nil => exact last
  | cons c start ih =>
    rw [List.cons_append, lastLocation?, ih]
    rfl

/-- Behind its first character a location has no bracket that would open another one. -/
theorem Location.bracket_not_mem_rest (location : Location) : '(' ∉ location.rest := by
  have noDigit {digits : List Char} (all : IsDigits digits) : '(' ∉ digits := by
    intro among
    have digit := all.2 _ among
    have none : CharClass.decimalDigit.has '(' = false := by decide
    rw [none] at digit
    cases digit
  have noWord : '(' ∉ location.category.text := by
    cases location.category <;> decide
  obtain ⟨line, column, code⟩ := location.numbered
  simp [rest, noDigit line, noDigit column, noDigit code, noWord]

theorem lastLocation?_text {message : List Char} (plain : ¬ HoldsLocation message)
    (location : Location) :
    lastLocation? (location.text ++ message) = some (location.between [] message) := by
  have behind : lastLocation? (location.rest ++ message) = none := by
    rwa [lastLocation?_eq_none,
      holdsLocation_append_of_no_bracket location.bracket_not_mem_rest]
  have here : location? (location.text ++ message) = some (location.between [] message) :=
    location?_eq_some.mpr ⟨location, message, rfl, rfl⟩
  rw [Location.text, List.cons_append] at here ⊢
  rw [lastLocation?, behind]
  exact here

end LastPlace

section Lines

variable {file message : List Char} (nonempty : file ≠ []) (location : Location)

/-- A line without a location behind its first character is not cut. -/
theorem locatedLine?_eq_none {line : List Char} :
    locatedLine? line = none ↔ ¬ HoldsLocation line.tail := by
  cases line with
  | nil => exact iff_of_true rfl not_holdsLocation_nil
  | cons c rest => rw [locatedLine?, Option.map_eq_none_iff, lastLocation?_eq_none, List.tail_cons]

include nonempty

theorem locatedLine?_append {rest : List Char} {located : LocatedLine}
    (last : lastLocation? rest = some located) :
    locatedLine? (file ++ rest) = some { located with file := file ++ located.file } := by
  obtain ⟨c, others, rfl⟩ := List.exists_cons_of_ne_nil nonempty
  rw [List.cons_append, locatedLine?, lastLocation?_append last, Option.map_some]
  rfl

/-- A line is cut in front of a message that holds no location. -/
theorem locatedLine?_between (plain : ¬ HoldsLocation message) :
    locatedLine? (file ++ (location.text ++ message)) = some (location.between file message) := by
  rw [locatedLine?_append nonempty (lastLocation?_text plain location)]
  simp [Location.between]

/-- The last location in a message takes all that stands in front of it for the file. -/
theorem locatedLine?_quoted {inner : LocatedLine} (last : lastLocation? message = some inner) :
    locatedLine? (file ++ (location.text ++ message)) =
      some { inner with file := file ++ (location.text ++ inner.file) } :=
  locatedLine?_append nonempty (lastLocation?_append last location.text)

end Lines

section Numbers

theorem isDigits_toDigits (n : Nat) : IsDigits (Nat.toDigits 10 n) := by
  refine ⟨Nat.toDigits_ne_nil, ?_⟩
  intro c among
  have digit : c.isDigit := Nat.isDigit_of_mem_toDigits (by omega) (by omega) among
  rw [Char.isDigit, Bool.and_eq_true, decide_eq_true_iff, decide_eq_true_iff] at digit
  rw [CharClass.has, List.any_eq_true]
  refine ⟨(0x30, 0x39), by unfold CharClass.decimalDigit; exact List.mem_cons_self, ?_⟩
  rw [Bool.and_eq_true, decide_eq_true_iff, decide_eq_true_iff]
  exact digit

theorem number?_toDigits {n : Nat} (small : n < 0x100000000) : number? (Nat.toDigits 10 n) = some n := by
  have all : (Nat.toDigits 10 n).all Char.isDigit :=
    List.all_eq_true.mpr fun c among => Nat.isDigit_of_mem_toDigits (by omega) (by omega) among
  have value : (Nat.toDigits 10 n).foldl (fun n c => n * 10 + (c.toNat - '0'.toNat)) 0 = n := by
    have read := Nat.ofDigitChars_ten_toDigits (n := n)
    simpa only [Nat.ofDigitChars, Nat.mul_comm] using read
  rw [number?, if_pos all]
  dsimp only
  rw [value, if_pos small]

/-- The location with these numbers, as they are printed. -/
def Location.printed (line column : Nat) (category : Category) (code : Nat) : Location where
  line := Nat.toDigits 10 line
  column := Nat.toDigits 10 column
  category
  code := Nat.toDigits 10 code
  numbered := ⟨isDigits_toDigits line, isDigits_toDigits column, isDigits_toDigits code⟩

theorem reported?_printed {file message : List Char} (nonempty : file ≠ [])
    (plain : ¬ HoldsLocation message) {line column code : Nat}
    (small : line < 0x100000000 ∧ column < 0x100000000 ∧ code < 0x100000000) (category : Category) :
    reported? (file ++ ((Location.printed line column category code).text ++ message)) =
      some ⟨file, line, column, code, message⟩ := by
  rw [reported?, locatedLine?_between nonempty _ plain]
  simp only [Location.between, Location.printed, Option.bind_eq_bind, Option.bind_some,
    number?_toDigits small.1, number?_toDigits small.2.1, number?_toDigits small.2.2]

/-- The file of a diagnostic is the one its line is cut behind. -/
theorem file_of_reported? {text : List Char} {located : LocatedLine} {found : Reported}
    (cut : locatedLine? text = some located) (read : reported? text = some found) :
    found.file = located.file := by
  simp only [reported?, cut, Option.bind_eq_bind, Option.bind_some, Option.bind_eq_some_iff] at read
  obtain ⟨_, _, _, _, _, _, same⟩ := read
  cases same
  rfl

end Numbers

end CompilerOutput

end StrictFiles
