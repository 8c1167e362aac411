import StrictFiles.Path.Relative

/-!
The order of paths: part by part, the root before a climb before any name, names by their bytes.
A directory comes right before what lies below it.
-/

namespace StrictFiles

/-- A key that orders parts as lists of numbers. -/
def Part.key : Part → List Nat
  | .root => [0]
  | .up => [1]
  | .name n => 2 :: n.bytes.map UInt8.toNat

namespace Path

def key (path : Path) : List (List Nat) :=
  path.parts.map Part.key

def le (a b : Path) : Bool :=
  !(b.key.lex a.key fun part other => part.lex other fun m n => m < n)

/-- The paths in ascending order, repetitions kept. -/
def sort (paths : List Path) : List Path :=
  paths.mergeSort le

end Path

end StrictFiles
