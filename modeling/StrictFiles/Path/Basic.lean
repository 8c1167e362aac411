import StrictFiles.Text.Utf8

/-!
Normalized paths. A path text is a list of segments between slashes; `.` and empty segments say
nothing, `..` takes back the segment before it. A `Path` is what remains, so each value is a
normal form and two spellings agree exactly when their paths are equal.
-/

namespace StrictFiles

/-- The byte that separates segments. -/
def slash : UInt8 := 47

/-- The name of an entry of a directory. -/
structure Name where
  bytes : Bytes
  plain : bytes ≠ [] ∧ bytes ≠ [46] ∧ bytes ≠ [46, 46] ∧ slash ∉ bytes
  deriving DecidableEq

/-- The bytes as a name, unless they are empty, `.`, `..`, or hold a slash. -/
def Name.ofBytes? (bytes : Bytes) : Option Name :=
  if h : bytes ≠ [] ∧ bytes ≠ [46] ∧ bytes ≠ [46, 46] ∧ slash ∉ bytes then some ⟨bytes, h⟩ else none

theorem Name.ofBytes?_bytes (name : Name) : Name.ofBytes? name.bytes = some name := by
  simp [Name.ofBytes?, name.plain]

/-- A segment that says something. -/
inductive Segment
  | up
  | name (name : Name)
  deriving DecidableEq

/-- The pieces between slashes, empty ones included; there is always one. -/
def splitSlashes : Bytes → List Bytes
  | [] => [[]]
  | b :: rest =>
    if b = slash then [] :: splitSlashes rest
    else match splitSlashes rest with
      | [] => [[b]]
      | piece :: pieces => (b :: piece) :: pieces

def Segment.ofBytes? (piece : Bytes) : Option Segment :=
  if piece = [46, 46] then some .up else (Name.ofBytes? piece).map .name

/-- The segments of a path text. -/
def segments (text : Bytes) : List Segment :=
  (splitSlashes text).filterMap Segment.ofBytes?

/-- Whether a path text starts at the root. -/
def isRooted : Bytes → Bool
  | b :: _ => b = slash
  | [] => false

/-- A normalized path: names below the root, or some steps up followed by names. -/
inductive Path
  | absolute (names : List Name)
  | relative (climbs : Nat) (names : List Name)
  deriving DecidableEq

namespace Path

def root : Path := .absolute []

/-- The path that leads nowhere else; its text is empty. -/
def here : Path := .relative 0 []

/-- One more segment. The root has nothing above it. -/
def push : Path → Segment → Path
  | .absolute names, .up => .absolute names.dropLast
  | .relative climbs [], .up => .relative (climbs + 1) []
  | .relative climbs names, .up => .relative climbs names.dropLast
  | .absolute names, .name n => .absolute (names ++ [n])
  | .relative climbs names, .name n => .relative climbs (names ++ [n])

/-- Where a path text leads from `base`. A rooted text does not look at the base. -/
def resolve (text : Bytes) (base : Path) : Path :=
  (segments text).foldl push (if isRooted text then root else base)

/-- The normal form of a path text on its own. -/
def ofBytes (text : Bytes) : Path :=
  resolve text here

def ofString (text : String) : Path :=
  ofBytes (Utf8.ofString text)

def names : Path → List Name
  | .absolute names => names
  | .relative _ names => names

def isAbsolute : Path → Bool
  | .absolute _ => true
  | .relative .. => false

/-- The path without its last segment. The root and the empty path stay as they are. -/
def parent : Path → Path
  | .absolute names => .absolute names.dropLast
  | .relative climbs [] => .relative (climbs - 1) []
  | .relative climbs names => .relative climbs names.dropLast

/-- The number of segments. -/
def depth : Path → Nat
  | .absolute names => names.length
  | .relative climbs names => climbs + names.length

/-- The paths above, nearest first. -/
def ancestors (path : Path) : List Path :=
  go path.depth path
where
  go : Nat → Path → List Path
    | 0, _ => []
    | above + 1, path => path.parent :: go above path.parent

/-- Pieces with a slash between any two. -/
def joinSlashes : List Bytes → Bytes
  | [] => []
  | [piece] => piece
  | piece :: pieces => piece ++ slash :: joinSlashes pieces

/-- The shortest spelling: no empty segment, no `.`, no `..` after a name. -/
def toBytes : Path → Bytes
  | .absolute names => slash :: joinSlashes (names.map Name.bytes)
  | .relative climbs names =>
    joinSlashes (List.replicate climbs [46, 46] ++ names.map Name.bytes)

/-- The spelling as text; bytes that are no text become replacement characters. -/
def display (path : Path) : String :=
  String.ofList (Utf8.decodeLossy path.toBytes)

/-- The spelling as text, if it is one. -/
def text? (path : Path) : Option String :=
  (Utf8.decode? path.toBytes).map String.ofList

/-- The last name. -/
def fileName? (path : Path) : Option Name :=
  path.names.getLast?

/-- The path of an entry `name` below `path`. -/
def child (path : Path) (name : Name) : Path :=
  path.push (.name name)

end Path

end StrictFiles
