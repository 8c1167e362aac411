import StrictFiles.Document.Token

/-!
Reading a document: a fold over its tokens. A `Cursor` says what is open and what may come next, so
each token settles at once whether the text goes on as it may.
-/

namespace StrictFiles

/-- A container around the value that is being read. -/
inductive Frame
  | array (before : List Json)
  | object (before : Members) (key : String)

/-- Where reading stands, with the open containers from the innermost out. -/
inductive Cursor
  /-- Before a value that must come. -/
  | atValue (around : List Frame)
  /-- Before an item or the end of an array. -/
  | atItem (before : List Json) (around : List Frame)
  /-- Behind an item. -/
  | afterItem (items : List Json) (around : List Frame)
  /-- Before a key or the end of an object. -/
  | atKey (before : Members) (around : List Frame)
  /-- Behind a key. -/
  | afterKey (before : Members) (key : String) (around : List Frame)
  /-- Behind a member. -/
  | afterMember (members : Members) (around : List Frame)
  /-- Behind the whole document. -/
  | done (document : Json)

namespace Cursor

/-- Behind a complete value. A key that comes again keeps its place and takes the later value. -/
def complete (value : Json) : List Frame → Cursor
  | [] => .done value
  | .array before :: around => .afterItem (before ++ [value]) around
  | .object before key :: around => .afterMember (before.put key value) around

/-- The value that a single token is. -/
def scalar? : Token → Option Json
  | .string text => some (.string text)
  | .number value => some value
  | .word "null" true => some .null
  | .word "true" true => some (.bool true)
  | .word "false" true => some (.bool false)
  | .word "Infinity" true => some .null
  | .word "NaN" true => some .null
  | _ => none

/-- Reads a token where a value starts. -/
def start? (around : List Frame) : Token → Option Cursor
  | .mark '[' => some (.atItem [] around)
  | .mark '\x7b' => some (.atKey [] around)
  | token => (scalar? token).map fun value => complete value around

/-- The key that a token is. -/
def key? : Token → Option String
  | .string text => some text
  | .word name _ => some name
  | _ => none

/-- Reads one token. -/
def step : Cursor → Token → Option Cursor
  | .atValue around, token => start? around token
  | .atItem before around, .mark ']' => some (complete (.array before) around)
  | .atItem before around, token => start? (.array before :: around) token
  | .afterItem items around, .mark ',' => some (.atItem items around)
  | .afterItem items around, .mark ']' => some (complete (.array items) around)
  | .afterItem _ _, _ => none
  | .atKey before around, .mark '\x7d' => some (complete (.object before) around)
  | .atKey before around, token => (key? token).map fun key => .afterKey before key around
  | .afterKey before key around, .mark ':' => some (.atValue (.object before key :: around))
  | .afterKey _ _ _, _ => none
  | .afterMember members around, .mark ',' => some (.atKey members around)
  | .afterMember members around, .mark '\x7d' => some (complete (.object members) around)
  | .afterMember _ _, _ => none
  | .done _, _ => none

/-- The document, once all of it has been read. -/
def document? : Cursor → Option Json
  | .done document => some document
  | _ => none

end Cursor

/-- The document that a text spells. -/
def Json.read? (text : List Char) : Option Json := do
  let tokens ← Token.tokens? text
  let cursor ← tokens.foldlM Cursor.step (.atValue [])
  cursor.document?

end StrictFiles
