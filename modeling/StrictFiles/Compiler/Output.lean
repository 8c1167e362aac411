import StrictFiles.Text.CharClass

/-!
What the compiler prints: a line for each diagnostic, `file(line,column): category TScode: message`,
with indented lines that continue its message. Where a line can be split in several ways the longest
file wins. Lines without a location belong to no file and are ignored with all that follows them
indented.
-/

namespace StrictFiles

namespace CompilerOutput

/-- The lines of a text, without their ends. A carriage return counts as part of an end only right
before the line feed. -/
def lines : List Char → List (List Char)
  | [] => []
  | '\n' :: rest => [] :: lines rest
  | '\r' :: '\n' :: rest => [] :: lines rest
  | c :: rest =>
    match lines rest with
    | [] => [[c]]
    | line :: others => (c :: line) :: others

/-- The word before the code of a diagnostic. -/
inductive Category
  | error
  | warning
  | suggestion
  | message
  deriving DecidableEq

namespace Category

def all : List Category := [.error, .warning, .suggestion, .message]

def text : Category → List Char
  | .error => "error".toList
  | .warning => "warning".toList
  | .suggestion => "suggestion".toList
  | .message => "message".toList

end Category

/-- A line cut into its parts, numbers as they are spelled. -/
structure LocatedLine where
  file : List Char
  line : List Char
  column : List Char
  category : Category
  code : List Char
  message : List Char
  deriving DecidableEq

/-- The rest of `text` behind `start`, if it starts so. -/
def behind? : (start text : List Char) → Option (List Char)
  | [], text => some text
  | s :: start, c :: text => if s = c then behind? start text else none
  | _ :: _, [] => none

/-- The digits at the start of a text, at least one, and what follows them. -/
def digits? (text : List Char) : Option (List Char × List Char) :=
  match text.span CharClass.decimalDigit.has with
  | ([], _) => none
  | (digits, rest) => some (digits, rest)

def category? (text : List Char) : Option (Category × List Char) :=
  Category.all.findSome? fun category => (behind? category.text text).map fun rest => (category, rest)

/-- The parts behind the file, when the file ends right before `text`. -/
def location? (text : List Char) : Option LocatedLine := do
  let text ← behind? ['('] text
  let (line, text) ← digits? text
  let text ← behind? [','] text
  let (column, text) ← digits? text
  let text ← behind? [')', ':', ' '] text
  let (category, text) ← category? text
  let text ← behind? [' ', 'T', 'S'] text
  let (code, text) ← digits? text
  let message ← behind? [':', ' '] text
  some { file := [], line, column, category, code, message }

/-- The last place of a text where a location starts. -/
def lastLocation? : List Char → Option LocatedLine
  | [] => none
  | c :: rest =>
    match lastLocation? rest with
    | some located => some { located with file := c :: located.file }
    | none => location? (c :: rest)

/-- The parts of a line with a location; its file has at least one character. -/
def locatedLine? : List Char → Option LocatedLine
  | [] => none
  | c :: rest => (lastLocation? rest).map fun located => { located with file := c :: located.file }

/-- A number of 32 bits in the digits `0` to `9`. -/
def number? (digits : List Char) : Option Nat :=
  if digits.all Char.isDigit then
    let n := digits.foldl (fun n c => n * 10 + (c.toNat - '0'.toNat)) 0
    if n < 0x100000000 then some n else none
  else none

/-- A diagnostic as it was printed. -/
structure Reported where
  file : List Char
  line : Nat
  column : Nat
  code : Nat
  message : List Char
  deriving DecidableEq

/-- The diagnostic on a line, unless the line has no location or a number that is none. -/
def reported? (text : List Char) : Option Reported := do
  let located ← locatedLine? text
  let line ← number? located.line
  let column ← number? located.column
  let code ← number? located.code
  some ⟨located.file, line, column, code, located.message⟩

def isBlankLine (line : List Char) : Bool :=
  line.all CharClass.blank.has

def isIndented : List Char → Bool
  | c :: _ => CharClass.blank.has c
  | [] => false

/-- A line without the blanks at its end. -/
def trimEnd (line : List Char) : List Char :=
  (line.reverse.dropWhile CharClass.blank.has).reverse

/-- What has been read: diagnostics and ignored lines, and whether an indented line would continue
the last diagnostic. -/
structure Reading where
  reported : List Reported
  ignored : List (List Char)
  continues : Bool
  deriving DecidableEq

namespace Reading

def start : Reading := ⟨[], [], false⟩

/-- Puts a line behind the message of the last diagnostic. -/
def continueLast (line : List Char) : List Reported → List Reported
  | [] => []
  | [last] => [{ last with message := last.message ++ '\n' :: line }]
  | first :: rest => first :: continueLast line rest

def readLine (reading : Reading) (line : List Char) : Reading :=
  if isBlankLine line then reading
  else if isIndented line then
    if reading.continues then
      { reading with reported := continueLast (trimEnd line) reading.reported }
    else reading
  else match reported? line with
    | some diagnostic =>
      { reading with reported := reading.reported ++ [diagnostic], continues := true }
    | none => { reading with ignored := reading.ignored ++ [line], continues := false }

end Reading

/-- Reads everything the compiler printed. -/
def read (text : List Char) : Reading :=
  (lines text).foldl Reading.readLine .start

end CompilerOutput

end StrictFiles
