/-!
Bytes and characters. A byte sequence is cut into pieces, each a character or the longest start
of one that does not go on as it should; decoding, lenient decoding and quoting all read these
pieces.
-/

namespace StrictFiles

/-- A sequence of bytes: the content of a file, or the spelling of a path. -/
abbrev Bytes := List UInt8

namespace Utf8

/-- The one to four bytes of a character. -/
def encodeChar (c : Char) : Bytes :=
  let n := c.toNat
  if n < 0x80 then [n.toUInt8]
  else if n < 0x800 then [(0xC0 + n / 0x40).toUInt8, (0x80 + n % 0x40).toUInt8]
  else if n < 0x10000 then
    [(0xE0 + n / 0x1000).toUInt8, (0x80 + n / 0x40 % 0x40).toUInt8, (0x80 + n % 0x40).toUInt8]
  else
    [(0xF0 + n / 0x40000).toUInt8, (0x80 + n / 0x1000 % 0x40).toUInt8,
      (0x80 + n / 0x40 % 0x40).toUInt8, (0x80 + n % 0x40).toUInt8]

def encode (text : List Char) : Bytes :=
  text.flatMap encodeChar

/-- What a leading byte of two or more bytes announces: how many bytes follow, the range of the
first of them, and the leading byte's share of the code point. -/
structure Lead where
  following : Nat
  low : Nat
  high : Nat
  bits : Nat

/-- The ranges leave out spellings longer than needed, surrogates, and numbers past `0x10FFFF`. -/
def lead? (a : Nat) : Option Lead :=
  if 0xC2 ≤ a ∧ a ≤ 0xDF then some ⟨1, 0x80, 0xBF, a - 0xC0⟩
  else if a = 0xE0 then some ⟨2, 0xA0, 0xBF, 0⟩
  else if a = 0xED then some ⟨2, 0x80, 0x9F, 0xD⟩
  else if 0xE1 ≤ a ∧ a ≤ 0xEF then some ⟨2, 0x80, 0xBF, a - 0xE0⟩
  else if a = 0xF0 then some ⟨3, 0x90, 0xBF, 0⟩
  else if 0xF1 ≤ a ∧ a ≤ 0xF3 then some ⟨3, 0x80, 0xBF, a - 0xF0⟩
  else if a = 0xF4 then some ⟨3, 0x80, 0x8F, 4⟩
  else none

/-- The longest run of at most `count` following bytes, the first of them between `low` and
`high`. -/
def following : (count low high : Nat) → Bytes → Bytes
  | 0, _, _, _ => []
  | _, _, _, [] => []
  | count + 1, low, high, b :: rest =>
    if low ≤ b.toNat ∧ b.toNat ≤ high then b :: following count 0x80 0xBF rest else []

/-- One piece of a byte sequence. -/
inductive Piece
  | char (c : Char)
  /-- Bytes that spell no character; `cut` says that the sequence ends inside one. -/
  | broken (bytes : Bytes) (cut : Bool)
  deriving DecidableEq

/-- The first piece of a sequence that starts with `a`, and what follows the piece. -/
def firstPiece (a : UInt8) (rest : Bytes) : Piece × Bytes :=
  if a.toNat < 0x80 then (.char (Char.ofNat a.toNat), rest)
  else match lead? a.toNat with
    | none => (.broken [a] false, rest)
    | some lead =>
      let tail := following lead.following lead.low lead.high rest
      let remaining := rest.drop tail.length
      if tail.length = lead.following then
        (.char (Char.ofNat (tail.foldl (fun n b => n * 0x40 + (b.toNat - 0x80)) lead.bits)),
          remaining)
      else (.broken (a :: tail) remaining.isEmpty, remaining)

theorem firstPiece_rest_length (a : UInt8) (rest : Bytes) :
    (firstPiece a rest).2.length ≤ rest.length := by
  unfold firstPiece
  split
  · exact Nat.le_refl _
  · split
    · exact Nat.le_refl _
    · dsimp only
      split <;> simp

def pieces : Bytes → List Piece
  | [] => []
  | a :: rest =>
    have := firstPiece_rest_length a rest
    (firstPiece a rest).1 :: pieces (firstPiece a rest).2
  termination_by bytes => bytes.length

/-- The first place where a byte sequence is no text. -/
structure Fault where
  /-- The number of bytes before it. -/
  offset : Nat
  /-- How many bytes are wrong; `none` when the sequence ends inside a character. -/
  length : Option Nat
  deriving DecidableEq

/-- The characters of pieces that start at byte `offset`, or the first fault. -/
def charsOf (offset : Nat) : List Piece → Except Fault (List Char)
  | [] => .ok []
  | .char c :: rest => (charsOf (offset + (encodeChar c).length) rest).map (c :: ·)
  | .broken _ true :: _ => .error ⟨offset, none⟩
  | .broken bytes false :: _ => .error ⟨offset, some bytes.length⟩

def decode (bytes : Bytes) : Except Fault (List Char) :=
  charsOf 0 (pieces bytes)

/-- The text of a sequence that is one. -/
def decode? (bytes : Bytes) : Option (List Char) :=
  (decode bytes).toOption

/-- Every broken piece becomes one replacement character. -/
def decodeLossy (bytes : Bytes) : List Char :=
  (pieces bytes).map fun
    | .char c => c
    | .broken .. => '\uFFFD'

def Fault.message : Fault → String
  | ⟨offset, some length⟩ => s!"invalid utf-8 sequence of {length} bytes from index {offset}"
  | ⟨offset, none⟩ => s!"incomplete utf-8 byte sequence from index {offset}"

def ofString (text : String) : Bytes :=
  encode text.toList

end Utf8

end StrictFiles
