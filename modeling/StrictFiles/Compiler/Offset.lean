import StrictFiles.Text.Utf8

/-!
From lines and columns to bytes. Lines and columns count from one; columns count characters, the
line end being the last character of its line.
-/

namespace StrictFiles

namespace Offset

/-- The lines of a text, each with its end. -/
def linesWithEnds : List Char → List (List Char)
  | [] => []
  | '\n' :: rest => ['\n'] :: linesWithEnds rest
  | c :: rest =>
    match linesWithEnds rest with
    | [] => [[c]]
    | line :: others => (c :: line) :: others

/-- The number of bytes of a text. -/
def size (text : List Char) : Nat :=
  (Utf8.encode text).length

/-- The offset of a column in one of several lines. Behind the last line it is their whole size, and
so it is for line zero, which none of them is. -/
def inLines : (lines : List (List Char)) → (line column : Nat) → Nat
  | [], _, _ => 0
  | first :: _, 1, column => size (first.take (column - 1))
  | first :: rest, line, column => size first + inLines rest (line - 1) column

/-- The byte of a text at a line and column. -/
def of (text : List Char) (line column : Nat) : Nat :=
  inLines (linesWithEnds text) line column

end Offset

end StrictFiles
