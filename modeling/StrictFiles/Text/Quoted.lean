import StrictFiles.Text.CharClass
import StrictFiles.Text.Utf8

/-!
Quoted forms of texts and byte sequences, as messages show them: between double quotes, with
everything escaped that would not show as itself.
-/

namespace StrictFiles

namespace Quoted

def hexDigits (n : Nat) : List Char :=
  Nat.toDigits 16 n

/-- Two digits for one byte. -/
def hexByte (b : UInt8) : List Char :=
  [Nat.digitChar (b.toNat / 16), Nat.digitChar (b.toNat % 16)]

/-- A character between quotes. One that extends its predecessor would otherwise join the quote. -/
def escapeChar (c : Char) : List Char :=
  match c with
  | '"' => ['\\', '"']
  | '\\' => ['\\', '\\']
  | '\n' => ['\\', 'n']
  | '\r' => ['\\', 'r']
  | '\t' => ['\\', 't']
  | '\x00' => ['\\', '0']
  | c =>
    if CharClass.graphemeExtend.has c || CharClass.unprintable.has c then
      ['\\', 'u', '\x7b'] ++ hexDigits c.toNat ++ ['\x7d']
    else [c]

def text (chars : List Char) : List Char :=
  '"' :: chars.flatMap escapeChar ++ ['"']

/-- A path between quotes: its text escaped, and bytes that are no text as `\xFF`. -/
def path (bytes : Bytes) : List Char :=
  let piece : Utf8.Piece → List Char
    | .char c => escapeChar c
    | .broken bytes _ => bytes.flatMap fun b => ['\\', 'x'] ++ (hexByte b).map Char.toUpper
  '"' :: (Utf8.pieces bytes).flatMap piece ++ ['"']

/-- A word of a command line between quotes. Controls and the single quote are escaped as well, a
control as `\x1b`. -/
def word (bytes : Bytes) : List Char :=
  let piece : Utf8.Piece → List Char
    | .char c =>
      if c = '\x27' then ['\\', c]
      else if 0 < c.toNat ∧ c.toNat < 0x20 ∧ c ≠ '\n' ∧ c ≠ '\r' ∧ c ≠ '\t' ∨ c.toNat = 0x7F then
        ['\\', 'x'] ++ hexByte c.toNat.toUInt8
      else escapeChar c
    | .broken bytes _ => bytes.flatMap fun b => ['\\', 'x'] ++ hexByte b
  '"' :: (Utf8.pieces bytes).flatMap piece ++ ['"']

end Quoted

end StrictFiles
