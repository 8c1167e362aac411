import StrictFiles.Config.Update
import StrictFiles.Proofs.PrintedTokens

/-!
A printed document is a sequence of tokens with blanks between them. Reading takes them off one by one;
it stops at a string that holds a separator or a number that is too wide, and only there.
-/

namespace StrictFiles

namespace Json

mutual

/-- The tokens that a document is printed with. -/
def tokens : Json → List Token
  | .null => [.word "null" true]
  | .bool true => [.word "true" true]
  | .bool false => [.word "false" true]
  | .integer n => [.number (.integer n)]
  | .float x => [.number (.float x)]
  | .string text => [.string text]
  | .array items => .mark '[' :: (itemTokens items ++ [.mark ']'])
  | .object members => .mark '\x7b' :: (memberTokens members ++ [.mark '\x7d'])

def itemTokens : List Json → List Token
  | [] => []
  | [item] => tokens item
  | item :: rest => tokens item ++ .mark ',' :: itemTokens rest

def memberTokens : List (String × Json) → List Token
  | [] => []
  | [(key, value)] => .string key :: .mark ':' :: tokens value
  | (key, value) :: rest => .string key :: .mark ':' :: tokens value ++ .mark ',' :: memberTokens rest

end

/-- The tokens that a value consists of itself, apart from brackets and words. -/
def ownTokens : Json → List Token
  | .integer n => [.number (.integer n)]
  | .float x => [.number (.float x)]
  | value => value.ownTexts.map .string

/-- What is said of brackets and words by no means is said of the tokens of a document when it is said of
those of some value in it. -/
theorem any_tokens {property : Token → Bool} (marks : ∀ c, property (.mark c) = false)
    (words : ∀ name plain, property (.word name plain) = false) (document : Json) :
    document.tokens.any property = document.values.any fun value => value.ownTokens.any property := by
  induction document using Json.by_parts with
  | null => simp [tokens, values, ownTokens, ownTexts, words]
  | bool value => cases value <;> simp [tokens, values, ownTokens, ownTexts, words]
  | integer n => simp [tokens, values, ownTokens]
  | float x => simp [tokens, values, ownTokens]
  | string text => simp [tokens, values, ownTokens, ownTexts]
  | array items ih =>
    have within : (itemTokens items).any property =
        (itemValues items).any fun value => value.ownTokens.any property := by
      induction items with
      | nil => rfl
      | cons item rest inner =>
        rw [List.forall_mem_cons] at ih
        rw [itemValues, List.any_append, ← ih.1, ← inner ih.2]
        cases rest with
        | nil => simp [itemTokens]
        | cons next rest => simp [itemTokens, marks]
    rw [tokens, values, List.any_cons, List.any_append, List.any_cons, List.any_cons, List.any_nil,
      marks, marks, within]
    simp [ownTokens, ownTexts]
  | object members ih =>
    have within : (memberTokens members).any property =
        ((members.any fun member => property (.string member.1)) ||
          (memberValues members).any fun value => value.ownTokens.any property) := by
      induction members with
      | nil => rfl
      | cons member rest inner =>
        rw [List.forall_mem_cons] at ih
        rw [memberValues, List.any_append, ← ih.1, List.any_cons]
        cases rest with
        | nil => simp [memberTokens, memberValues, marks]
        | cons next rest =>
          rw [memberTokens, List.any_append, List.any_cons, List.any_cons, List.any_cons, marks, marks,
            inner ih.2]
          · ac_rfl
          · exact List.cons_ne_nil _ _
    have keys : (ownTokens (.object members)).any property =
        members.any fun member => property (.string member.1) := by
      rw [ownTokens, ownTexts, List.map_map, List.any_map]
      · rfl
      · intro n same
        cases same
      · intro x same
        cases same
    rw [tokens, values, List.any_cons, List.any_append, List.any_cons, List.any_cons, List.any_nil,
      marks, marks, within, keys, Bool.false_or, Bool.false_or, Bool.or_false]

end Json

namespace Token

open Json (holdsSeparator isWide)

/-- Whether the token is not read as it is printed. -/
def isRefused : Token → Bool
  | .string text => holdsSeparator text
  | .number value => value.isWide
  | _ => false

/-- The token that is read off the spelling of a token. -/
def taken? (token : Token) : Option Token :=
  if token.isRefused then none else some token

theorem mapM_taken? (tokens : List Token) :
    tokens.mapM taken? = if tokens.any isRefused then none else some tokens := by
  induction tokens with
  | nil => rfl
  | cons token rest ih =>
    rw [List.mapM_cons, ih, taken?, List.any_cons]
    cases token.isRefused with
    | true => rfl
    | false =>
      rw [Bool.false_or]
      cases rest.any isRefused <;> rfl

/-- A number that is not wide is taken as it is. -/
theorem taken?_integer (n : Int) : taken? (.number (.integer n)) = (int64? n).map .number := by
  rw [taken?, isRefused, isWide, int64?]
  by_cases range : -0x8000000000000000 ≤ n ∧ n < 0x8000000000000000
  · simp [range.1, range.2]
  · have outside : n < -0x8000000000000000 ∨ 0x8000000000000000 ≤ n := by omega
    rw [if_neg range, if_pos (by simpa using outside)]
    rfl

/-- The text is taken apart into `tokens`, as far as these are taken, however many steps are allowed
beyond its length. -/
def Reads (text : List Char) (tokens : List Token) : Prop :=
  ∀ steps, text.length ≤ steps → tokensWithin? steps text = tokens.mapM taken?

theorem reads_nil : Reads [] [] := by
  intro steps _
  cases steps <;> rfl

section Reads

variable {rest : List Char} {tokens : List Token}

theorem Reads.space {c : Char} (reads : Reads rest tokens) (blank : isSpace c = true) :
    Reads (c :: rest) tokens := by
  intro steps enough
  cases steps with
  | zero => cases enough
  | succ steps =>
    rw [tokensWithin?, if_pos blank]
    exact reads steps (Nat.le_of_succ_le_succ enough)

theorem Reads.token {c : Char} {text : List Char} {token : Token} (reads : Reads rest tokens)
    (noSpace : isSpace c = false) (noComment : c ≠ '/') (shorter : rest.length ≤ text.length)
    (first : token? (c :: text) = (taken? token).map (·, rest)) :
    Reads (c :: text) (token :: tokens) := by
  intro steps enough
  cases steps with
  | zero => cases enough
  | succ steps =>
    have left := reads steps (Nat.le_trans shorter (Nat.le_of_succ_le_succ enough))
    rw [tokensWithin?, if_neg (by rw [noSpace]; exact Bool.false_ne_true), if_neg noComment, first,
      List.mapM_cons]
    cases taken? token with
    | none => rfl
    | some token =>
      rw [Option.map_some]
      dsimp only
      rw [left]
      cases tokens.mapM taken? <;> rfl

theorem Reads.mark {c : Char} (reads : Reads rest tokens) (isMark : Token.isMark c = true) :
    Reads (c :: rest) (.mark c :: tokens) := by
  have marks : ['[', ']', '\x7b', '\x7d', ',', ':'].all (fun c => !isSpace c && c != '/') = true :=
    rfl
  have plain := List.all_eq_true.mp marks c (by simpa [Token.isMark, or_assoc] using isMark)
  rw [Bool.and_eq_true, Bool.not_eq_true', bne_iff_ne] at plain
  refine reads.token plain.1 plain.2 (Nat.le_refl _) ?_
  rw [token?, if_pos isMark]
  rfl

theorem Reads.newline (reads : Reads rest tokens) (level : Nat) :
    Reads (Json.newline level ++ rest) tokens := by
  have blanks (count : Nat) : Reads (List.replicate count ' ' ++ rest) tokens := by
    induction count with
    | zero => exact reads
    | succ count ih => exact ih.space rfl
  exact (blanks _).space rfl

/-- A string is taken as it was printed, unless it holds a separator. -/
theorem Reads.literal (reads : Reads rest tokens) (text : String) :
    Reads (Json.stringLiteral text.toList ++ rest) (.string text :: tokens) := by
  have read := stringUnits?_text text.toList rest
  rw [Json.stringLiteral, List.append_assoc, List.cons_append]
  refine reads.token rfl (by decide) (by simp; omega) ?_
  rw [token?, if_neg (by decide), if_pos (.inl rfl), List.singleton_append, taken?, isRefused,
    holdsSeparator]
  split at read
  · rename_i separated
    rw [read, if_pos separated]
    rfl
  · rename_i clean
    obtain ⟨units, known, same⟩ := read
    rw [known, if_neg clean]
    dsimp only
    rw [same, Option.map_some, Option.map_some, String.ofList_toList]

/-- A whole number is taken as it was printed, unless it is wide. -/
theorem Reads.integer {n : Int} (reads : Reads rest tokens) (closes : Closes rest) :
    Reads ((toString n).toList ++ rest) (.number (.integer n) :: tokens) := by
  obtain ⟨first, later, spelt, start, read⟩ := numeral?_integer n closes
  have plain := List.all_eq_true.mp numberStarts_plain first start
  simp only [Bool.and_eq_true, Bool.not_eq_true', bne_iff_ne] at plain
  obtain ⟨⟨⟨⟨⟨⟨noSpace, noMark⟩, noWord⟩, noQuote⟩, noSingle⟩, noEscape⟩, noComment⟩ := plain
  rw [spelt, List.cons_append]
  refine reads.token noSpace noComment (by simp) ?_
  rw [token?, if_neg (by simp [noMark]), if_neg (by simp [noQuote, noSingle]),
    if_neg (by simp [noWord, noEscape]), read, taken?_integer]
  cases int64? n <;> rfl

theorem Reads.word {first : Char} {word : List Char} (reads : Reads rest tokens)
    (closes : Closes rest) (start : startsWord first = true)
    (parts : (first :: word).all goesOn = true) :
    Reads (first :: word ++ rest) (.word (String.ofList (first :: word)) true :: tokens) := by
  have taken := token?_word start parts closes
  simp only [startsWord, Bool.and_eq_true, bne_iff_ne, Bool.not_eq_true'] at start
  exact reads.token start.1.1.1.1.2 start.2 (by simp) taken

end Reads

end Token

namespace Json

open Token (Reads Closes)

theorem closes_newline (level : Nat) (rest : List Char) : Closes (newline level ++ rest) := by
  rintro c here
  cases here
  exact .inr rfl

theorem closes_comma (rest : List Char) : Closes (',' :: rest) := by
  rintro c here
  cases here
  exact .inl rfl

/-- The text of the value is read as its tokens, wherever it stands. -/
def IsReadAsPrinted (value : Json) : Prop :=
  ∀ level rest tokens, Closes rest → Reads rest tokens →
    Reads (pretty level value ++ rest) (value.tokens ++ tokens)

theorem reads_items {items : List Json} (nonempty : items ≠ [])
    (each : ∀ item ∈ items, IsReadAsPrinted item) {level : Nat} {rest : List Char}
    {after : List Token} (closes : Closes rest) (reads : Reads rest after) :
    Reads (prettyItems level items ++ rest) (itemTokens items ++ after) := by
  induction items with
  | nil => exact (nonempty rfl).elim
  | cons item others ih =>
    rw [List.forall_mem_cons] at each
    cases others with
    | nil =>
      rw [prettyItems, itemTokens, List.append_assoc]
      exact (each.1 _ _ _ closes reads).newline level
    | cons next others =>
      have later := ih (List.cons_ne_nil _ _) each.2
      rw [prettyItems, itemTokens, List.append_assoc, List.append_assoc, List.append_assoc,
        List.cons_append, List.cons_append]
      · exact (each.1 _ _ _ (closes_comma _) (later.mark rfl)).newline level
      · exact List.cons_ne_nil _ _
      · exact List.cons_ne_nil _ _

theorem reads_members {members : Members} (nonempty : members ≠ [])
    (each : ∀ member ∈ members, IsReadAsPrinted member.2) {level : Nat} {rest : List Char}
    {after : List Token} (closes : Closes rest) (reads : Reads rest after) :
    Reads (prettyMembers level members ++ rest) (memberTokens members ++ after) := by
  have member (key : String) {value : Json} (printed : IsReadAsPrinted value) {rest : List Char}
      {after : List Token} (closes : Closes rest) (reads : Reads rest after) :
      Reads (newline level ++ (stringLiteral key.toList ++ ':' :: ' ' :: (pretty level value ++ rest)))
        (.string key :: .mark ':' :: (value.tokens ++ after)) :=
    ((((printed _ _ _ closes reads).space rfl).mark rfl).literal key).newline level
  induction members with
  | nil => exact (nonempty rfl).elim
  | cons first others ih =>
    rw [List.forall_mem_cons] at each
    obtain ⟨key, value⟩ := first
    cases others with
    | nil =>
      simp only [prettyMembers, memberTokens, List.append_assoc, List.cons_append]
      exact member key each.1 closes reads
    | cons next others =>
      have later := ih (List.cons_ne_nil _ _) each.2
      simp only [prettyMembers, memberTokens, List.append_assoc, List.cons_append]
      exact member key each.1 (closes_comma _) (later.mark rfl)

theorem isReadAsPrinted {document : Json} (floatFree : document.FloatFree) :
    IsReadAsPrinted document := by
  induction document using Json.by_parts with
  | null => exact fun level rest after closes reads => reads.word closes rfl rfl
  | bool value =>
    cases value with
    | true => exact fun level rest after closes reads => reads.word closes rfl rfl
    | false => exact fun level rest after closes reads => reads.word closes rfl rfl
  | integer n => exact fun level rest after closes reads => reads.integer closes
  | float x => cases floatFree.self
  | string text => exact fun level rest after closes reads => reads.literal text
  | array items ih =>
    intro level rest after closes reads
    rw [FloatFree, throughout_array] at floatFree
    have each (item : Json) (among : item ∈ items) := ih item among (floatFree.2 item among)
    have closed := reads.mark (c := ']') rfl
    cases items with
    | nil => exact closed.mark rfl
    | cons item others =>
      simp only [pretty, tokens, List.append_assoc, List.cons_append, List.nil_append]
      exact (reads_items (List.cons_ne_nil _ _) each (closes_newline _ _)
        (closed.newline level)).mark rfl
  | object members ih =>
    intro level rest after closes reads
    rw [FloatFree, throughout_object] at floatFree
    have each (member : String × Json) (among : member ∈ members) :=
      ih member among (floatFree.2 member among)
    have closed := reads.mark (c := '\x7d') rfl
    cases members with
    | nil => exact closed.mark rfl
    | cons member others =>
      simp only [pretty, tokens, List.append_assoc, List.cons_append, List.nil_append]
      exact (reads_members (List.cons_ne_nil _ _) each (closes_newline _ _)
        (closed.newline level)).mark rfl

/-- A document is refused when one of its tokens is. -/
theorem any_isRefused (document : Json) :
    document.tokens.any Token.isRefused = document.isRefused := by
  have own (value : Json) : value.ownTokens.any Token.isRefused =
      (value.ownTexts.any holdsSeparator || value.isWide) := by
    cases value <;> simp [ownTokens, ownTexts, isWide, Token.isRefused, Function.comp_def]
  rw [any_tokens (fun _ => rfl) (fun _ _ => rfl), Bool.eq_iff_iff, isRefused_iff, List.any_eq_true]
  simp only [own]

/-- A printed document, with or without a new line behind it, is taken apart into its tokens, or refused
when it holds a separator or a wide number. -/
theorem tokens?_printed {document : Json} (floatFree : document.FloatFree) {ending : List Char}
    (final : ending = [] ∨ ending = ['\n']) :
    Token.tokens? (pretty 0 document ++ ending) =
      if document.isRefused then none else some document.tokens := by
  have closes : Closes ending := by
    rcases final with rfl | rfl
    · exact nofun
    · exact closes_newline 0 []
  have nothing : Reads ending [] := by
    rcases final with rfl | rfl
    · exact Token.reads_nil
    · exact Token.reads_nil.space rfl
  have reads := isReadAsPrinted floatFree 0 ending [] closes nothing
  rw [List.append_nil] at reads
  rw [← any_isRefused, ← Token.mapM_taken?]
  exact reads _ (Nat.le_refl _)

end Json

end StrictFiles
