import Mathlib.Data.List.TakeDrop
import StrictFiles.Proofs.DocumentValues

/-!
Printed documents are taken apart into the tokens they were put together from. Each string is read as
it was printed, unless it holds a separator: that is printed as it stands, but no string goes on behind
a line end.
-/

namespace StrictFiles

namespace Token

open Json (isSeparator holdsSeparator)

section Strings

theorem stringUnits?_escaped {c e : Char} (known : escaped? c = some e) (sameLine : isLineEnd c = false)
    (rest : List Char) :
    stringUnits? '"' ('\\' :: c :: rest) =
      (stringUnits? '"' rest).map fun read => (.char e :: read.1, read.2) := by
  have noByte : c ≠ 'x' := by rintro rfl; cases known
  have noCode : c ≠ 'u' := by rintro rfl; cases known
  have noReturn : c ≠ '\r' := by rintro rfl; cases sameLine
  rw [stringUnits?]
  · simp only [sameLine, Bool.false_eq_true, if_false, known]
    cases stringUnits? '"' rest <;> rfl
  · simp [noCode]
  · simp [noByte]
  · simp [noReturn]

theorem stringUnits?_plain {c : Char} (noQuote : c ≠ '"') (noEscape : c ≠ '\\')
    (sameLine : isLineEnd c = false) (rest : List Char) :
    stringUnits? '"' (c :: rest) =
      (stringUnits? '"' rest).map fun read => (.char c :: read.1, read.2) := by
  rw [stringUnits?]
  · simp only [noQuote, noEscape, sameLine, Bool.false_eq_true, or_self, if_false]
    cases stringUnits? '"' rest <;> rfl
  all_goals simp [noEscape]

theorem stringUnits?_code {a b c d : Char} {n : Nat} (spelt : hexValue? [a, b, c, d] = some n)
    (rest : List Char) :
    stringUnits? '"' ('\\' :: 'u' :: a :: b :: c :: d :: rest) =
      (stringUnits? '"' rest).map fun read => (.code n :: read.1, read.2) := by
  rw [stringUnits?, spelt]
  cases stringUnits? '"' rest <;> rfl

/-- A number below the surrogates is a character of its own, whatever comes behind it. -/
theorem joinUnits?_code {n : Nat} (small : n < 0xD800) (units : List TextUnit) :
    joinUnits? (.code n :: units) = (joinUnits? units).map (Char.ofNat n :: ·) := by
  have noHigh : isHighSurrogate n = false := by
    rw [isHighSurrogate, Bool.and_eq_false_iff, decide_eq_false_iff_not]
    omega
  have noLow : isLowSurrogate n = false := by
    rw [isLowSurrogate, Bool.and_eq_false_iff, decide_eq_false_iff_not]
    omega
  cases units with
  | nil => simp [joinUnits?, noHigh, noLow]
  | cons next later =>
    cases next with
    | char c => simp [joinUnits?, noHigh, noLow]
    | code low =>
      rw [joinUnits?]
      simp [noHigh, noLow]

theorem joinUnits?_chars (text : List Char) : joinUnits? (text.map .char) = some text := by
  induction text with
  | nil => rfl
  | cons c text ih => rw [List.map_cons, joinUnits?, ih, Option.map_some]

theorem hexValue?_control : ∀ n < 0x20,
    hexValue? ['0', '0', Nat.digitChar (n / 16), Nat.digitChar (n % 16)] = some n := by
  decide

/-- A character of a printed string is read as one unit, which stands for that character. -/
theorem stringUnits?_escapeChar {c : Char} (plain : isSeparator c = false) :
    ∃ unit, (∀ rest, stringUnits? '"' (Json.escapeChar c ++ rest) =
        (stringUnits? '"' rest).map fun read => (unit :: read.1, read.2)) ∧
      ∀ units, joinUnits? (unit :: units) = (joinUnits? units).map (c :: ·) := by
  have single (c : Char) (units : List TextUnit) :
      joinUnits? (.char c :: units) = (joinUnits? units).map (c :: ·) := by
    rw [joinUnits?]
  -- The first seven rules escape by a letter of their own; the last is for controls and the rest.
  unfold Json.escapeChar
  split
  case h_8 =>
    rename_i noQuote noEscape _ _ noFeed _ noReturn
    split
    · rename_i control
      refine ⟨.code c.toNat, stringUnits?_code (hexValue?_control _ control), ?_⟩
      intro units
      rw [joinUnits?_code (by omega), Char.ofNat_toNat]
    · have sameLine : isLineEnd c = false := by
        simp only [isSeparator, Bool.or_eq_false_iff, decide_eq_false_iff_not] at plain
        simp only [isLineEnd, Bool.or_eq_false_iff, decide_eq_false_iff_not]
        exact ⟨⟨⟨noFeed, noReturn⟩, plain.1⟩, plain.2⟩
      exact ⟨.char c, stringUnits?_plain noQuote noEscape sameLine, single c⟩
  all_goals exact ⟨.char _, stringUnits?_escaped rfl rfl, single _⟩

theorem stringUnits?_separator {c : Char} (separator : isSeparator c = true) (rest : List Char) :
    stringUnits? '"' (Json.escapeChar c ++ rest) = none := by
  rw [isSeparator, Bool.or_eq_true, decide_eq_true_iff, decide_eq_true_iff] at separator
  rcases separator with rfl | rfl <;> rfl

/-- The text between quotes is read back, or refused when it holds a separator. -/
theorem stringUnits?_text (text rest : List Char) :
    if text.any isSeparator then
      stringUnits? '"' (text.flatMap Json.escapeChar ++ '"' :: rest) = none
    else ∃ units, stringUnits? '"' (text.flatMap Json.escapeChar ++ '"' :: rest) = some (units, rest) ∧
      joinUnits? units = some text := by
  induction text with
  | nil => exact ⟨[], rfl, rfl⟩
  | cons c text ih =>
    rw [List.flatMap_cons, List.append_assoc, List.any_cons]
    cases separator : isSeparator c with
    | true => exact stringUnits?_separator separator _
    | false =>
      obtain ⟨unit, read, join⟩ := stringUnits?_escapeChar separator
      rw [Bool.false_or, read]
      split
      · rename_i later
        rw [if_pos later] at ih
        rw [ih]
        rfl
      · rename_i clean
        rw [if_neg clean] at ih
        obtain ⟨units, known, same⟩ := ih
        rw [known]
        exact ⟨unit :: units, rfl, by rw [join, same]; rfl⟩

end Strings

/-- What stands behind a value in printed text: the end, a comma, or a new line. -/
def Closes (rest : List Char) : Prop :=
  ∀ c ∈ rest.head?, c = ',' ∨ c = '\n'

theorem Closes.cases {rest : List Char} (closes : Closes rest) :
    rest = [] ∨ ∃ tail, rest = ',' :: tail ∨ rest = '\n' :: tail := by
  cases rest with
  | nil => exact .inl rfl
  | cons c tail =>
    rcases closes c rfl with rfl | rfl
    · exact .inr ⟨tail, .inl rfl⟩
    · exact .inr ⟨tail, .inr rfl⟩

section Numbers

theorem hexDigit?_digit {c : Char} (digit : c.isDigit = true) :
    hexDigit? c = some (c.toNat - '0'.toNat) := by
  rw [hexDigit?, if_pos]
  simpa [Char.isDigit, Char.le_def] using digit

theorem digitsValue_digits (digits : List Char) (all : ∀ c ∈ digits, c.isDigit = true) (start : Nat) :
    digits.foldl (fun n c => n * 10 + (hexDigit? c).getD 0) start =
      Nat.ofDigitChars 10 digits start := by
  induction digits generalizing start with
  | nil => rfl
  | cons c digits ih =>
    rw [List.forall_mem_cons] at all
    rw [List.foldl_cons, ih all.2, Nat.ofDigitChars_cons, hexDigit?_digit all.1, Option.getD_some,
      Nat.mul_comm]

theorem isDigit_toDigits {n : Nat} : ∀ c ∈ Nat.toDigits 10 n, c.isDigit = true :=
  fun _ among => Nat.isDigit_of_mem_toDigits (by omega) (by omega) among

theorem digitsValue_toDigits (n : Nat) : digitsValue 10 (Nat.toDigits 10 n) = n := by
  rw [digitsValue, digitsValue_digits _ isDigit_toDigits]
  exact Nat.ofDigitChars_ten_toDigits

theorem digits_append {before rest : List Char} (all : ∀ c ∈ before, c.isDigit = true)
    (stops : ∀ c ∈ rest.head?, c.isDigit = false) : digits (before ++ rest) = (before, rest) := by
  rw [digits, List.span_eq_takeWhile_dropWhile, List.takeWhile_append_of_pos all,
    List.dropWhile_append_of_pos all]
  cases rest with
  | nil => simp
  | cons c rest => simp [stops c rfl]

/-- Only zero is printed with a zero in front. -/
theorem head_toDigits {n : Nat} (positive : 0 < n) (rest : List Char) :
    ∀ later, Nat.toDigits 10 n ++ rest ≠ '0' :: later := by
  have first : (Nat.toDigits 10 n).head? ≠ some '0' := by
    induction n using Nat.strongRecOn with
    | _ n ih =>
      rw [Nat.toDigits_eq_if (by omega)]
      split
      · rw [List.head?_cons, Ne, Option.some.injEq, Nat.digitChar_eq_zero]
        omega
      · rw [List.head?_append_of_ne_nil _ Nat.toDigits_ne_nil]
        exact ih (n / 10) (by omega) (by omega)
  have whole : (Nat.toDigits 10 n ++ rest).head? = (Nat.toDigits 10 n).head? :=
    List.head?_append_of_ne_nil _ Nat.toDigits_ne_nil
  intro later same
  rw [same, List.head?_cons] at whole
  exact first whole.symm

theorem wholeDigits_append (n : Nat) {rest : List Char} (closes : Closes rest) :
    wholeDigits (Nat.toDigits 10 n ++ rest) = (Nat.toDigits 10 n, rest) := by
  by_cases zero : n = 0
  · subst zero
    rfl
  · rw [wholeDigits]
    · apply digits_append isDigit_toDigits
      intro c here
      rcases closes c here with rfl | rfl <;> rfl
    · exact head_toDigits (Nat.pos_of_ne_zero zero) rest

theorem decimalNumeral?_toDigits (negative : Bool) (n : Nat) {rest : List Char}
    (closes : Closes rest) :
    decimalNumeral? negative (Nat.toDigits 10 n ++ rest) =
      (int64? (if negative then -(n : Int) else n)).map (·, rest) := by
  obtain ⟨first, later, spelt⟩ := List.exists_cons_of_ne_nil (Nat.toDigits_ne_nil (n := n) (b := 10))
  have value := digitsValue_toDigits n
  rw [decimalNumeral?, wholeDigits_append n closes, spelt]
  rw [spelt] at value
  rcases closes.cases with rfl | ⟨tail, rfl | rfl⟩ <;>
  · rw [← value]
    rfl

/-- No printed number is read as a hexadecimal one: a zero in front stands alone. -/
theorem unsignedNumeral?_toDigits (n : Nat) {rest : List Char} (closes : Closes rest) :
    unsignedNumeral? (Nat.toDigits 10 n ++ rest) =
      decimalNumeral? false (Nat.toDigits 10 n ++ rest) := by
  by_cases zero : n = 0
  · subst zero
    rcases closes.cases with rfl | ⟨tail, rfl | rfl⟩
    · rfl
    · cases tail <;> rfl
    · cases tail <;> rfl
  · rw [unsignedNumeral?]
    exact fun x d later => head_toDigits (Nat.pos_of_ne_zero zero) rest (x :: d :: later)

theorem isHexadecimal_toDigits {n : Nat} (positive : 0 < n) (rest : List Char) :
    isHexadecimal (Nat.toDigits 10 n ++ rest) = false := by
  rw [isHexadecimal]
  exact fun x d later => head_toDigits positive rest (x :: d :: later)

/-- The characters a printed number starts with. -/
def numberStarts : List Char :=
  ['-', '0', '1', '2', '3', '4', '5', '6', '7', '8', '9']

set_option maxRecDepth 20000 in
/-- Nothing but a number starts with one of them. -/
theorem numberStarts_plain : numberStarts.all (fun c => !isSpace c && !isMark c && !isWordStart c &&
    c != '"' && c != '\x27' && c != '\\' && c != '/') = true := by
  rfl

theorem mem_numberStarts {c : Char} (digit : c.isDigit = true) : c ∈ numberStarts := by
  have range : 48 ≤ c.toNat ∧ c.toNat ≤ 57 := by
    rwa [Char.isDigit, Bool.and_eq_true, decide_eq_true_iff, decide_eq_true_iff] at digit
  obtain ⟨n, here⟩ := Nat.exists_eq_add_of_le range.1
  have all : ∀ n < 10, Char.ofNat (48 + n) ∈ numberStarts := by decide
  rw [← Char.ofNat_toNat c, here]
  exact all n (by omega)

theorem exists_toDigits (n : Nat) :
    ∃ first later, Nat.toDigits 10 n = first :: later ∧ first.isDigit = true := by
  obtain ⟨first, later, spelt⟩ := List.exists_cons_of_ne_nil (Nat.toDigits_ne_nil (n := n) (b := 10))
  exact ⟨first, later, spelt, isDigit_toDigits first (spelt ▸ List.mem_cons_self)⟩

theorem after?_toDigits {n : Nat} {start : Char} (noDigit : start.isDigit = false)
    (later rest : List Char) : after? (start :: later) (Nat.toDigits 10 n ++ rest) = none := by
  obtain ⟨first, others, spelt, digit⟩ := exists_toDigits n
  rw [spelt, List.cons_append, after?, if_neg]
  rintro rfl
  rw [digit] at noDigit
  cases noDigit

/-- A printed number is read back, if it has 64 bits. -/
theorem numeral?_integer (n : Int) {rest : List Char} (closes : Closes rest) :
    ∃ first later, (toString n).toList = first :: later ∧ first ∈ numberStarts ∧
      numeral? (first :: (later ++ rest)) = (int64? n).map (·, rest) := by
  cases n with
  | ofNat n =>
    have spelt : (toString (Int.ofNat n)).toList = Nat.toDigits 10 n := by
      rw [show toString (Int.ofNat n) = toString n from rfl, Nat.toString_eq_ofList_toDigits,
        String.toList_ofList]
    obtain ⟨first, later, digits, digit⟩ := exists_toDigits n
    refine ⟨first, later, spelt.trans digits, mem_numberStarts digit, ?_⟩
    have unsigned : first ≠ '-' ∧ first ≠ '+' := by
      constructor <;> rintro rfl <;> cases digit
    rw [numeral?]
    · rw [← List.cons_append, ← digits, unsignedNumeral?_toDigits n closes,
        decimalNumeral?_toDigits false n closes]
      rfl
    · simp [unsigned.1]
    · simp [unsigned.2]
  | negSucc n =>
    have spelt : (toString (Int.negSucc n)).toList = '-' :: Nat.toDigits 10 (n + 1) := by
      rw [show toString (Int.negSucc n) = "-" ++ toString (n + 1) from rfl, String.toList_append,
        Nat.toString_eq_ofList_toDigits]
      simp
    refine ⟨'-', Nat.toDigits 10 (n + 1), spelt, List.mem_cons_self, ?_⟩
    rw [numeral?, isHexadecimal_toDigits (Nat.succ_pos n), if_neg Bool.false_ne_true,
      negativeNumeral?, show "Infinity".toList = 'I' :: "nfinity".toList from rfl,
      show "NaN".toList = 'N' :: "aN".toList from rfl, after?_toDigits rfl, after?_toDigits rfl]
    dsimp only
    rw [decimalNumeral?_toDigits true _ closes]
    rfl

end Numbers

section Words

set_option maxRecDepth 20000 in
theorem isWordPart_closes : isWordPart ',' = false ∧ isWordPart '\n' = false :=
  ⟨by rfl, by rfl⟩

theorem wordUnits_closes {rest : List Char} (closes : Closes rest) : wordUnits rest = ([], rest) := by
  rcases closes.cases with rfl | ⟨tail, rfl | rfl⟩
  · rw [wordUnits]
  · rw [wordUnits, if_neg (by rw [isWordPart_closes.1]; exact Bool.false_ne_true)]
    simp
  · rw [wordUnits, if_neg (by rw [isWordPart_closes.2]; exact Bool.false_ne_true)]
    simp

/-- Whether a text that starts with the character starts with a word, and with nothing else. -/
def startsWord (c : Char) : Bool :=
  isWordStart c && !isSpace c && !isMark c && c != '"' && c != '\x27' && c != '/'

/-- Whether the character goes on with a word, as it stands. -/
def goesOn (c : Char) : Bool :=
  isWordPart c && c != '\\'

theorem wordUnits_word {word rest : List Char} (parts : word.all goesOn = true)
    (closes : Closes rest) : wordUnits (word ++ rest) = (word.map .char, rest) := by
  induction word with
  | nil => exact wordUnits_closes closes
  | cons c word ih =>
    rw [List.all_cons, Bool.and_eq_true, goesOn, Bool.and_eq_true, bne_iff_ne] at parts
    rw [List.cons_append, wordUnits, if_pos parts.1.1, ih parts.2, List.map_cons]
    simp [parts.1.2]

/-- A bare word is read up to its end. -/
theorem token?_word {first : Char} {word rest : List Char} (start : startsWord first = true)
    (parts : (first :: word).all goesOn = true) (closes : Closes rest) :
    token? (first :: (word ++ rest)) = some (.word (String.ofList (first :: word)) true, rest) := by
  have plain : ((first :: word).map TextUnit.char).all isPlain = true := by
    simp [List.all_map, isPlain]
  simp only [startsWord, Bool.and_eq_true, bne_iff_ne, Bool.not_eq_true'] at start
  obtain ⟨⟨⟨⟨⟨letter, _⟩, noMark⟩, noQuote⟩, noSingle⟩, _⟩ := start
  rw [token?, if_neg (by rw [noMark]; exact Bool.false_ne_true), if_neg (by simp [noQuote, noSingle]),
    if_pos (.inl letter), ← List.cons_append, wordUnits_word parts closes, List.map_cons]
  dsimp only
  rw [← List.map_cons, joinUnits?_chars, Option.map_some, plain]

end Words

end Token

end StrictFiles
