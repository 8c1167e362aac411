import StrictFiles.Document.Value

/-!
Documents as text: compact, or spread over lines with two spaces for each level.
-/

namespace StrictFiles

namespace Json

/-- Floats from `0.00001` up to sixteen digits before the point are written positionally. -/
def floatLayout : DecimalLayout := ⟨-5, 15⟩

/-- A character of a string. Quotes, backslashes and controls are escaped, nothing else. -/
def escapeChar (c : Char) : List Char :=
  match c with
  | '"' => ['\\', '"']
  | '\\' => ['\\', '\\']
  | '\x08' => ['\\', 'b']
  | '\t' => ['\\', 't']
  | '\n' => ['\\', 'n']
  | '\x0c' => ['\\', 'f']
  | '\r' => ['\\', 'r']
  | c =>
    if c.toNat < 0x20 then
      ['\\', 'u', '0', '0', Nat.digitChar (c.toNat / 16), Nat.digitChar (c.toNat % 16)]
    else [c]

def stringLiteral (text : List Char) : List Char :=
  '"' :: text.flatMap escapeChar ++ ['"']

/-- Values that have no parts. -/
def scalar : Json → List Char
  | .null => ['n', 'u', 'l', 'l']
  | .bool true => ['t', 'r', 'u', 'e']
  | .bool false => ['f', 'a', 'l', 's', 'e']
  | .integer n => (toString n).toList
  | .float x => floatLayout.write x
  | .string text => stringLiteral text.toList
  | .array _ => []
  | .object _ => []

mutual

/-- The text without any blanks. -/
def compact : Json → List Char
  | .array items => '[' :: compactItems items ++ [']']
  | .object members => '\x7b' :: compactMembers members ++ ['\x7d']
  | value => scalar value

def compactItems : List Json → List Char
  | [] => []
  | [item] => compact item
  | item :: rest => compact item ++ ',' :: compactItems rest

def compactMembers : List (String × Json) → List Char
  | [] => []
  | [(key, value)] => stringLiteral key.toList ++ ':' :: compact value
  | (key, value) :: rest =>
    stringLiteral key.toList ++ ':' :: compact value ++ ',' :: compactMembers rest

end

/-- A new line at a level of nesting. -/
def newline (level : Nat) : List Char :=
  '\n' :: List.replicate (2 * level) ' '

mutual

/-- The text over several lines: each part of a container on its own, one level deeper. -/
def pretty (level : Nat) : Json → List Char
  | .array [] => ['[', ']']
  | .array items => '[' :: prettyItems (level + 1) items ++ newline level ++ [']']
  | .object [] => ['\x7b', '\x7d']
  | .object members => '\x7b' :: prettyMembers (level + 1) members ++ newline level ++ ['\x7d']
  | value => scalar value

def prettyItems (level : Nat) : List Json → List Char
  | [] => []
  | [item] => newline level ++ pretty level item
  | item :: rest => newline level ++ pretty level item ++ ',' :: prettyItems level rest

def prettyMembers (level : Nat) : List (String × Json) → List Char
  | [] => []
  | [(key, value)] => newline level ++ stringLiteral key.toList ++ ':' :: ' ' :: pretty level value
  | (key, value) :: rest =>
    newline level ++ stringLiteral key.toList ++ ':' :: ' ' :: pretty level value ++
      ',' :: prettyMembers level rest

end

/-- The compact text. -/
def text (value : Json) : String :=
  String.ofList value.compact

end Json

end StrictFiles
