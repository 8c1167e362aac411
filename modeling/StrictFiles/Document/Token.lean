import StrictFiles.Document.Value
import StrictFiles.Text.CharClass

/-!
The tokens of a document text. The dialect is wide: comments, blanks of any script, strings in
either quote with lines that continue, bare words with letters of any script, hexadecimal numbers,
and numbers with a sign or a bare point.
-/

namespace StrictFiles

inductive Token
  /-- A bracket, a comma or a colon. -/
  | mark (c : Char)
  | string (text : String)
  | number (value : Json)
  /-- A bare word; `plain` when nothing in it is escaped. -/
  | word (name : String) (plain : Bool)

namespace Token

def isLineEnd (c : Char) : Bool :=
  c = '\n' || c = '\r' || c = '\u2028' || c = '\u2029'

/-- Characters that may stand between tokens. -/
def isSpace (c : Char) : Bool :=
  c = '\t' || c = '\x0b' || c = '\x0c' || c = '\uFEFF' || isLineEnd c ||
    CharClass.spaceSeparator.has c

def isMark (c : Char) : Bool :=
  c = '[' || c = ']' || c = '\x7b' || c = '\x7d' || c = ',' || c = ':'

def isWordStart (c : Char) : Bool :=
  c = '$' || c = '_' || CharClass.letter.has c

def isWordPart (c : Char) : Bool :=
  isWordStart c || CharClass.nonspacingMark.has c || CharClass.diacritic.has c ||
    CharClass.decimalDigit.has c || CharClass.connector.has c || c = '\u200C' || c = '\u200D'

def hexDigit? (c : Char) : Option Nat :=
  if '0' ≤ c ∧ c ≤ '9' then some (c.toNat - '0'.toNat)
  else if 'a' ≤ c ∧ c ≤ 'f' then some (c.toNat - 'a'.toNat + 10)
  else if 'A' ≤ c ∧ c ≤ 'F' then some (c.toNat - 'A'.toNat + 10)
  else none

def isHexDigit (c : Char) : Bool :=
  (hexDigit? c).isSome

/-- The number that digits spell in a base. -/
def digitsValue (base : Nat) (digits : List Char) : Nat :=
  digits.foldl (fun n c => n * base + (hexDigit? c).getD 0) 0

/-- The number of hexadecimal digits, if they are all digits. -/
def hexValue? (digits : List Char) : Option Nat :=
  if digits.all isHexDigit then some (digitsValue 16 digits) else none

/-- A character of a string or word as written: itself, or the number of a code unit. -/
inductive TextUnit
  | char (c : Char)
  | code (n : Nat)

/-- What a backslash before `c` stands for. Digits, `x` and `u` start longer escapes. -/
def escaped? (c : Char) : Option Char :=
  match c with
  | 'b' => some '\x08'
  | 'f' => some '\x0c'
  | 'n' => some '\n'
  | 'r' => some '\r'
  | 't' => some '\t'
  | 'v' => some '\x0b'
  | '0' => some '\x00'
  | 'x' => none
  | 'u' => none
  | c => if c.isDigit then none else some c

/-- The units of a string up to its closing quote, and what follows the quote. -/
def stringUnits? (quote : Char) : List Char → Option (List TextUnit × List Char)
  | [] => none
  | '\\' :: 'u' :: a :: b :: c :: d :: rest =>
    match hexValue? [a, b, c, d], stringUnits? quote rest with
    | some n, some (units, after) => some (.code n :: units, after)
    | _, _ => none
  | '\\' :: 'x' :: a :: b :: rest =>
    match hexValue? [a, b], stringUnits? quote rest with
    | some n, some (units, after) => some (.char (Char.ofNat n) :: units, after)
    | _, _ => none
  | '\\' :: '\r' :: '\n' :: rest => stringUnits? quote rest
  | '\\' :: c :: rest =>
    if isLineEnd c then stringUnits? quote rest
    else match escaped? c, stringUnits? quote rest with
      | some e, some (units, after) => some (.char e :: units, after)
      | _, _ => none
  | c :: rest =>
    if c = quote then some ([], rest)
    else if c = '\\' ∨ isLineEnd c then none
    else match stringUnits? quote rest with
      | some (units, after) => some (.char c :: units, after)
      | none => none

/-- The units of a word, and what follows it. -/
def wordUnits : List Char → List TextUnit × List Char
  | [] => ([], [])
  | '\\' :: 'u' :: a :: b :: c :: d :: rest =>
    match hexValue? [a, b, c, d] with
    | some n =>
      let (units, after) := wordUnits rest
      (.code n :: units, after)
    | none => ([], '\\' :: 'u' :: a :: b :: c :: d :: rest)
  | c :: rest =>
    if isWordPart c then
      let (units, after) := wordUnits rest
      (.char c :: units, after)
    else ([], c :: rest)

/-- The character of a high and a low surrogate. The low half is or-ed in, so pairs past the first
sixty-four high surrogates share characters. -/
def pairChar (high low : Nat) : Char :=
  Char.ofNat (((high - 0xD800) <<< 10) ||| ((low - 0xDC00) + 0x10000))

def isLowSurrogate (n : Nat) : Bool :=
  0xDC00 ≤ n && n ≤ 0xDFFF

def isHighSurrogate (n : Nat) : Bool :=
  0xD800 ≤ n && n ≤ 0xDBFF

/-- The characters of units; surrogates must come in pairs. -/
def joinUnits? : List TextUnit → Option (List Char)
  | [] => some []
  | .char c :: rest => (joinUnits? rest).map (c :: ·)
  | .code high :: .code low :: rest =>
    if isHighSurrogate high then
      if isLowSurrogate low then (joinUnits? rest).map (pairChar high low :: ·) else none
    else if isLowSurrogate high then none
    else (joinUnits? (.code low :: rest)).map (Char.ofNat high :: ·)
  | .code n :: rest =>
    if isHighSurrogate n || isLowSurrogate n then none
    else (joinUnits? rest).map (Char.ofNat n :: ·)

/-- Decimal digits at the start, and what follows them. -/
def digits (text : List Char) : List Char × List Char :=
  text.span Char.isDigit

/-- The exponent at the start, if one is there, and what follows it. -/
def exponent (text : List Char) : Option Int × List Char :=
  match text with
  | e :: rest =>
    if e = 'e' ∨ e = 'E' then
      let (negative, unsigned) := match rest with
        | '-' :: r => (true, r)
        | '+' :: r => (false, r)
        | r => (false, r)
      match digits unsigned with
      | ([], _) => (none, text)
      | (ds, after) =>
        let n : Int := digitsValue 10 ds
        (some (if negative then -n else n), after)
    else (none, text)
  | [] => (none, [])

def int64? (n : Int) : Option Json :=
  if -0x8000000000000000 ≤ n ∧ n < 0x8000000000000000 then some (.integer n) else none

/-- The value of a decimal numeral: whole without point and exponent, else a float. -/
def decimal? (negative : Bool) (whole : List Char) (fraction : Option (List Char))
    (exponent : Option Int) : Option Json :=
  match fraction, exponent with
  | none, none =>
    let n : Int := digitsValue 10 whole
    int64? (if negative then -n else n)
  | fraction, exponent =>
    let places := fraction.getD []
    (Binary64.ofDecimal? negative (digitsValue 10 (whole ++ places))
      (exponent.getD 0 - places.length)).map .float

/-- The digits before the point: a zero stands alone. -/
def wholeDigits (text : List Char) : List Char × List Char :=
  match text with
  | '0' :: rest => (['0'], rest)
  | text => digits text

/-- A decimal numeral and what follows it. -/
def decimalNumeral? (negative : Bool) (text : List Char) : Option (Json × List Char) :=
  match wholeDigits text with
  | ([], '.' :: rest) =>
    match digits rest with
    | ([], _) => none
    | (places, after) =>
      (decimal? negative [] (some places) (exponent after).1).map (·, (exponent after).2)
  | ([], _) => none
  | (whole, '.' :: rest) =>
    let (places, after) := digits rest
    (decimal? negative whole (some places) (exponent after).1).map (·, (exponent after).2)
  | (whole, after) =>
    (decimal? negative whole none (exponent after).1).map (·, (exponent after).2)

/-- The rest of `text` behind `start`, if it starts so. -/
def after? : (start text : List Char) → Option (List Char)
  | [], text => some text
  | s :: start, c :: text => if s = c then after? start text else none
  | _ :: _, [] => none

/-- Behind a minus sign: infinity and the undefined number are no values of a document. -/
def negativeNumeral? (text : List Char) : Option (Json × List Char) :=
  match after? "Infinity".toList text, after? "NaN".toList text with
  | some rest, _ => some (.null, rest)
  | none, some rest => some (.null, rest)
  | none, none => decimalNumeral? true text

/-- A numeral without a sign. Hexadecimal ones have 32 bits. -/
def unsignedNumeral? (text : List Char) : Option (Json × List Char) :=
  match text with
  | '0' :: x :: d :: rest =>
    if (x = 'x' ∨ x = 'X') ∧ isHexDigit d then
      let (ds, after) := (d :: rest).span isHexDigit
      let n := digitsValue 16 ds
      if n < 0x100000000 then some (.integer n, after) else none
    else decimalNumeral? false text
  | text => decimalNumeral? false text

/-- A hexadecimal numeral takes no sign. -/
def isHexadecimal : List Char → Bool
  | '0' :: x :: d :: _ => (x = 'x' || x = 'X') && isHexDigit d
  | _ => false

def numeral? : List Char → Option (Json × List Char)
  | '-' :: rest => if isHexadecimal rest then none else negativeNumeral? rest
  | '+' :: rest => if isHexadecimal rest then none else decimalNumeral? false rest
  | text => unsignedNumeral? text

def isPlain : TextUnit → Bool
  | .char _ => true
  | .code _ => false

/-- The token at the start of a text that starts with no blank, and what follows it. -/
def token? : List Char → Option (Token × List Char)
  | [] => none
  | c :: rest =>
    if isMark c then some (.mark c, rest)
    else if c = '"' ∨ c = '\x27' then
      match stringUnits? c rest with
      | some (units, after) =>
        (joinUnits? units).map fun chars => (.string (String.ofList chars), after)
      | none => none
    else if isWordStart c ∨ c = '\\' then
      match wordUnits (c :: rest) with
      | ([], _) => none
      | (units, after) =>
        (joinUnits? units).map fun chars => (.word (String.ofList chars) (units.all isPlain), after)
    else (numeral? (c :: rest)).map fun (value, after) => (.number value, after)

/-- What follows the end of a block comment. -/
def afterBlock? : List Char → Option (List Char)
  | [] => none
  | '*' :: '/' :: rest => some rest
  | _ :: rest => afterBlock? rest

/-- What follows a comment whose first slash has been read. -/
def afterComment? : List Char → Option (List Char)
  | '/' :: rest => some (rest.dropWhile fun c => !isLineEnd c)
  | '*' :: rest => afterBlock? rest
  | _ => none

/-- Takes tokens off `text` until it ends. Each step shortens the text, so its length bounds their
number. -/
def tokensWithin? : (steps : Nat) → (text : List Char) → Option (List Token)
  | _, [] => some []
  | 0, _ => none
  | steps + 1, c :: rest =>
    if isSpace c then tokensWithin? steps rest
    else if c = '/' then
      match afterComment? rest with
      | some after => tokensWithin? steps after
      | none => none
    else match token? (c :: rest) with
      | some (token, after) => (tokensWithin? steps after).map (token :: ·)
      | none => none

/-- The tokens of a text, if it consists of them. -/
def tokens? (text : List Char) : Option (List Token) :=
  tokensWithin? text.length text

end Token

end StrictFiles
