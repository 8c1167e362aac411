import StrictFiles.Text.Utf8

/-!
Encoding and decoding undo each other. Both directions rest on one reading of the table of leading
bytes: which first bytes follow, and which number the bytes spell.
-/

namespace StrictFiles

namespace Utf8

/-- A byte behind the first one of a character. -/
def IsTail (b : UInt8) : Prop :=
  0x80 ≤ b.toNat ∧ b.toNat ≤ 0xBF

theorem toNat_ofNat {n : Nat} (valid : n.isValidChar) : (Char.ofNat n).toNat = n := by
  rw [Char.ofNat, dif_pos valid]
  rfl

theorem toUInt8_of_toNat {b : UInt8} {n : Nat} (same : n = b.toNat) : n.toUInt8 = b := by
  subst same
  simp

/-- The second byte of a character of three bytes: no longer spelling than needed, no surrogate. -/
def IsSecondOfThree (a b : UInt8) : Prop :=
  IsTail b ∧ (a.toNat = 0xE0 → 0xA0 ≤ b.toNat) ∧ (a.toNat = 0xED → b.toNat ≤ 0x9F)

/-- The second byte of a character of four bytes: no longer spelling than needed, and no number past
the last one. -/
def IsSecondOfFour (a b : UInt8) : Prop :=
  IsTail b ∧ (a.toNat = 0xF0 → 0x90 ≤ b.toNat) ∧ (a.toNat = 0xF4 → b.toNat ≤ 0x8F)

/-- The bytes that spell one character, with the number of the character. -/
inductive Spelling : Nat → Bytes → Prop
  | one {a : UInt8} (small : a.toNat < 0x80) : Spelling a.toNat [a]
  | two {a b : UInt8} (lead : 0xC2 ≤ a.toNat ∧ a.toNat ≤ 0xDF) (second : IsTail b) :
      Spelling ((a.toNat - 0xC0) * 0x40 + (b.toNat - 0x80)) [a, b]
  | three {a b c : UInt8} (lead : 0xE0 ≤ a.toNat ∧ a.toNat ≤ 0xEF) (second : IsSecondOfThree a b)
      (third : IsTail c) :
      Spelling (((a.toNat - 0xE0) * 0x40 + (b.toNat - 0x80)) * 0x40 + (c.toNat - 0x80)) [a, b, c]
  | four {a b c d : UInt8} (lead : 0xF0 ≤ a.toNat ∧ a.toNat ≤ 0xF4) (second : IsSecondOfFour a b)
      (third : IsTail c) (fourth : IsTail d) :
      Spelling ((((a.toNat - 0xF0) * 0x40 + (b.toNat - 0x80)) * 0x40 + (c.toNat - 0x80)) * 0x40 +
        (d.toNat - 0x80)) [a, b, c, d]

theorem Spelling.valid {n : Nat} {bytes : Bytes} (spelling : Spelling n bytes) : n.isValidChar := by
  cases spelling with
  | one small => exact Or.inl (by omega)
  | two lead second =>
    obtain ⟨_, _⟩ := second
    exact Or.inl (by omega)
  | @three a b c lead second third =>
    obtain ⟨⟨_, _⟩, shortest, noSurrogate⟩ := second
    obtain ⟨_, _⟩ := third
    unfold Nat.isValidChar
    omega
  | four lead second third fourth =>
    obtain ⟨⟨_, _⟩, shortest, last⟩ := second
    obtain ⟨_, _⟩ := third
    obtain ⟨_, _⟩ := fourth
    exact Or.inr (by omega)

/-- A byte below `0x80` is in the spelling of its own character only. -/
theorem Spelling.ascii {n : Nat} {bytes : Bytes} (spelling : Spelling n bytes) {b : UInt8}
    (among : b ∈ bytes) (small : b.toNat < 0x80) : n = b.toNat := by
  cases spelling with
  | one _ => rw [List.mem_singleton.mp among]
  | two lead second =>
    obtain ⟨_, _⟩ := second
    simp only [List.mem_cons, List.not_mem_nil, or_false] at among
    rcases among with rfl | rfl <;> omega
  | three lead second third =>
    obtain ⟨⟨_, _⟩, _, _⟩ := second
    obtain ⟨_, _⟩ := third
    simp only [List.mem_cons, List.not_mem_nil, or_false] at among
    rcases among with rfl | rfl | rfl <;> omega
  | four lead second third fourth =>
    obtain ⟨⟨_, _⟩, _, _⟩ := second
    obtain ⟨_, _⟩ := third
    obtain ⟨_, _⟩ := fourth
    simp only [List.mem_cons, List.not_mem_nil, or_false] at among
    rcases among with rfl | rfl | rfl | rfl <;> omega

theorem Spelling.encodeChar {n : Nat} {bytes : Bytes} (spelling : Spelling n bytes) :
    encodeChar (Char.ofNat n) = bytes := by
  unfold Utf8.encodeChar
  rw [toNat_ofNat spelling.valid]
  cases spelling with
  | one small => simp [small]
  | @two a b lead second =>
    obtain ⟨_, _⟩ := second
    rw [if_neg (by omega), if_pos (by omega)]
    rw [toUInt8_of_toNat (b := a) (by omega), toUInt8_of_toNat (b := b) (by omega)]
  | @three a b c lead second third =>
    obtain ⟨⟨_, _⟩, shortest, noSurrogate⟩ := second
    obtain ⟨_, _⟩ := third
    rw [if_neg (by omega), if_neg (by omega), if_pos (by omega)]
    rw [toUInt8_of_toNat (b := a) (by omega), toUInt8_of_toNat (b := b) (by omega),
      toUInt8_of_toNat (b := c) (by omega)]
  | @four a b c d lead second third fourth =>
    obtain ⟨⟨_, _⟩, shortest, last⟩ := second
    obtain ⟨_, _⟩ := third
    obtain ⟨_, _⟩ := fourth
    rw [if_neg (by omega), if_neg (by omega), if_neg (by omega)]
    rw [toUInt8_of_toNat (b := a) (by omega), toUInt8_of_toNat (b := b) (by omega),
      toUInt8_of_toNat (b := c) (by omega), toUInt8_of_toNat (b := d) (by omega)]

theorem toNat_toUInt8 {n : Nat} (small : n < 256) : n.toUInt8.toNat = n := by
  simp
  omega

theorem Spelling.cast {m n : Nat} {bytes : Bytes} (spelling : Spelling m bytes) (same : m = n) :
    Spelling n bytes :=
  same ▸ spelling

/-- Every character has a spelling. -/
theorem encodeChar_spelling (c : Char) : Spelling c.toNat (encodeChar c) := by
  have valid : c.toNat.isValidChar := c.valid
  unfold Utf8.encodeChar
  generalize c.toNat = n at valid
  unfold Nat.isValidChar at valid
  dsimp only
  have tail (m : Nat) : (0x80 + m % 0x40).toUInt8.toNat = 0x80 + m % 0x40 :=
    toNat_toUInt8 (by omega)
  split
  · have first : n.toUInt8.toNat = n := toNat_toUInt8 (by omega)
    exact (Spelling.one (by omega)).cast first
  split
  · have first : (0xC0 + n / 0x40).toUInt8.toNat = 0xC0 + n / 0x40 := toNat_toUInt8 (by omega)
    have second := tail n
    refine (Spelling.two ⟨?_, ?_⟩ ⟨?_, ?_⟩).cast ?_ <;> omega
  split
  · have first : (0xE0 + n / 0x1000).toUInt8.toNat = 0xE0 + n / 0x1000 := toNat_toUInt8 (by omega)
    have second := tail (n / 0x40)
    have third := tail n
    refine (Spelling.three ⟨?_, ?_⟩ ⟨⟨?_, ?_⟩, fun _ => ?_, fun _ => ?_⟩ ⟨?_, ?_⟩).cast ?_ <;> omega
  · have first : (0xF0 + n / 0x40000).toUInt8.toNat = 0xF0 + n / 0x40000 := toNat_toUInt8 (by omega)
    have second := tail (n / 0x1000)
    have third := tail (n / 0x40)
    have fourth := tail n
    refine (Spelling.four ⟨?_, ?_⟩ ⟨⟨?_, ?_⟩, fun _ => ?_, fun _ => ?_⟩ ⟨?_, ?_⟩ ⟨?_, ?_⟩).cast ?_ <;>
      omega

theorem lead?_three {a b : UInt8} (lead : 0xE0 ≤ a.toNat ∧ a.toNat ≤ 0xEF)
    (second : IsSecondOfThree a b) :
    ∃ low high, lead? a.toNat = some ⟨2, low, high, a.toNat - 0xE0⟩ ∧
      low ≤ b.toNat ∧ b.toNat ≤ high := by
  obtain ⟨⟨_, _⟩, shortest, noSurrogate⟩ := second
  unfold lead?
  rw [if_neg (by omega)]
  split
  · rename_i same
    exact ⟨_, _, by rw [same], shortest same, by assumption⟩
  split
  · rename_i same
    exact ⟨_, _, by rw [same], by assumption, noSurrogate same⟩
  · rw [if_pos (by omega)]
    exact ⟨_, _, rfl, by assumption, by assumption⟩

theorem lead?_four {a b : UInt8} (lead : 0xF0 ≤ a.toNat ∧ a.toNat ≤ 0xF4)
    (second : IsSecondOfFour a b) :
    ∃ low high, lead? a.toNat = some ⟨3, low, high, a.toNat - 0xF0⟩ ∧
      low ≤ b.toNat ∧ b.toNat ≤ high := by
  obtain ⟨⟨_, _⟩, shortest, last⟩ := second
  unfold lead?
  rw [if_neg (by omega), if_neg (by omega), if_neg (by omega), if_neg (by omega)]
  split
  · rename_i same
    exact ⟨_, _, by rw [same], shortest same, by assumption⟩
  split
  · exact ⟨_, _, rfl, by assumption, by assumption⟩
  · have same : a.toNat = 0xF4 := by omega
    rw [if_pos same]
    exact ⟨_, _, by rw [same], by assumption, last same⟩

theorem following_cons {count low high : Nat} {b : UInt8} {rest : Bytes}
    (inside : low ≤ b.toNat ∧ b.toNat ≤ high) :
    following (count + 1) low high (b :: rest) = b :: following count 0x80 0xBF rest := by
  rw [following, if_pos inside]

theorem following_zero {low high : Nat} {rest : Bytes} : following 0 low high rest = [] := by
  rw [following]

/-- A spelling is read as one piece, whatever comes behind it. -/
theorem Spelling.firstPiece {n : Nat} {a : UInt8} {tail : Bytes} (spelling : Spelling n (a :: tail))
    (rest : Bytes) : firstPiece a (tail ++ rest) = (.char (Char.ofNat n), rest) := by
  unfold Utf8.firstPiece
  cases spelling with
  | one small => rw [if_pos small]; rfl
  | @two _ b lead second =>
    rw [if_neg (by omega), lead?, if_pos lead]
    simp [following_cons second, following_zero]
  | @three _ b c lead second third =>
    obtain ⟨low, high, entry, inside⟩ := lead?_three lead second
    rw [if_neg (by omega), entry]
    simp [following_cons inside, following_cons third, following_zero]
  | @four _ b c d lead second third fourth =>
    obtain ⟨low, high, entry, inside⟩ := lead?_four lead second
    rw [if_neg (by omega), entry]
    simp [following_cons inside, following_cons third, following_cons fourth, following_zero]

theorem Spelling.nonempty {n : Nat} {bytes : Bytes} (spelling : Spelling n bytes) :
    ∃ a tail, bytes = a :: tail := by
  cases spelling <;> exact ⟨_, _, rfl⟩

theorem pieces_encode (text : List Char) : pieces (encode text) = text.map .char := by
  induction text with
  | nil => simp [encode, pieces]
  | cons c text ih =>
    have spelling := encodeChar_spelling c
    obtain ⟨a, tail, spelt⟩ := spelling.nonempty
    rw [spelt] at spelling
    rw [encode, List.flatMap_cons, ← encode, spelt, List.cons_append, pieces, spelling.firstPiece,
      Char.ofNat_toNat, ih, List.map_cons]

theorem charsOf_chars (offset : Nat) (text : List Char) :
    charsOf offset (text.map .char) = .ok text := by
  induction text generalizing offset with
  | nil => rfl
  | cons c text ih => rw [List.map_cons, charsOf, ih]; rfl

/-- Encoded text is read back. -/
theorem decode_encode (text : List Char) : decode (encode text) = .ok text := by
  rw [decode, pieces_encode, charsOf_chars]

theorem lead?_cases {a : Nat} {lead : Lead} (entry : lead? a = some lead) :
    (lead.following = 1 ∧ lead.low = 0x80 ∧ lead.high = 0xBF ∧ lead.bits = a - 0xC0 ∧
      0xC2 ≤ a ∧ a ≤ 0xDF) ∨
    (lead.following = 2 ∧ 0x80 ≤ lead.low ∧ lead.high ≤ 0xBF ∧ lead.bits = a - 0xE0 ∧
      0xE0 ≤ a ∧ a ≤ 0xEF ∧ (a = 0xE0 → 0xA0 ≤ lead.low) ∧ (a = 0xED → lead.high ≤ 0x9F)) ∨
    (lead.following = 3 ∧ 0x80 ≤ lead.low ∧ lead.high ≤ 0xBF ∧ lead.bits = a - 0xF0 ∧
      0xF0 ≤ a ∧ a ≤ 0xF4 ∧ (a = 0xF0 → 0x90 ≤ lead.low) ∧ (a = 0xF4 → lead.high ≤ 0x8F)) := by
  unfold lead? at entry
  repeat' split at entry
  all_goals cases entry
  all_goals
    dsimp only
    omega

/-- A full run of following bytes, taken apart at its first byte. -/
theorem following_full {count low high : Nat} {rest : Bytes}
    (full : (following (count + 1) low high rest).length = count + 1) :
    ∃ b after, rest = b :: after ∧ low ≤ b.toNat ∧ b.toNat ≤ high ∧
      following (count + 1) low high rest = b :: following count 0x80 0xBF after ∧
      (following count 0x80 0xBF after).length = count := by
  cases rest with
  | nil => simp [following] at full
  | cons b after =>
    rw [following] at full ⊢
    split at full
    · rename_i inside
      rw [if_pos inside]
      exact ⟨b, after, rfl, inside.1, inside.2, rfl, by simpa using full⟩
    · simp at full

/-- A character that starts with an entry of the table ends behind all the bytes that must follow. -/
theorem Spelling.of_lead {a : UInt8} {lead : Lead} {rest : Bytes} (entry : lead? a.toNat = some lead)
    (full : (following lead.following lead.low lead.high rest).length = lead.following) :
    ∃ tail after, rest = tail ++ after ∧ following lead.following lead.low lead.high rest = tail ∧
      Spelling (tail.foldl (fun n b => n * 0x40 + (b.toNat - 0x80)) lead.bits) (a :: tail) := by
  rcases lead?_cases entry with
    ⟨count, low, high, bits, _, _⟩ | ⟨count, low, high, bits, _, _, shortest, noSurrogate⟩ |
    ⟨count, low, high, bits, _, _, shortest, last⟩
  · rw [count] at full ⊢
    obtain ⟨b, after, rfl, _, _, run, _⟩ := following_full full
    rw [run, following_zero, bits]
    exact ⟨[b], after, rfl, rfl, .two (by omega) ⟨by omega, by omega⟩⟩
  · rw [count] at full ⊢
    obtain ⟨b, rest, rfl, _, _, run, full⟩ := following_full full
    obtain ⟨c, after, rfl, _, _, run', _⟩ := following_full full
    rw [run, run', following_zero, bits]
    refine ⟨[b, c], after, rfl, rfl, .three (by omega) ⟨⟨by omega, by omega⟩, ?_, ?_⟩
      ⟨by omega, by omega⟩⟩
    · exact fun same => Nat.le_trans (shortest same) (by assumption)
    · exact fun same => Nat.le_trans (by assumption) (noSurrogate same)
  · rw [count] at full ⊢
    obtain ⟨b, rest, rfl, _, _, run, full⟩ := following_full full
    obtain ⟨c, rest, rfl, _, _, run', full⟩ := following_full full
    obtain ⟨d, after, rfl, _, _, run'', _⟩ := following_full full
    rw [run, run', run'', following_zero, bits]
    refine ⟨[b, c, d], after, rfl, rfl, .four (by omega) ⟨⟨by omega, by omega⟩, ?_, ?_⟩
      ⟨by omega, by omega⟩ ⟨by omega, by omega⟩⟩
    · exact fun same => Nat.le_trans (shortest same) (by assumption)
    · exact fun same => Nat.le_trans (by assumption) (last same)

/-- What is read as a character is the spelling of that character. -/
theorem firstPiece_char {a : UInt8} {rest after : Bytes} {c : Char}
    (read : firstPiece a rest = (.char c, after)) : a :: rest = encodeChar c ++ after := by
  unfold firstPiece at read
  split at read
  · rename_i small
    obtain ⟨rfl, rfl⟩ := read
    rw [(Spelling.one small).encodeChar]
    rfl
  split at read
  · simp at read
  · rename_i lead entry
    dsimp only at read
    split at read
    · rename_i full
      obtain ⟨tail, behind, rfl, run, spelling⟩ := Spelling.of_lead entry full
      rw [run, List.drop_left] at read
      obtain ⟨rfl, rfl⟩ := read
      rw [spelling.encodeChar, List.cons_append]
    · simp at read

/-- Bytes that are read as text are the encoding of that text. -/
theorem encode_of_charsOf {bytes : Bytes} {offset : Nat} {text : List Char}
    (read : charsOf offset (pieces bytes) = .ok text) : encode text = bytes := by
  fun_induction pieces bytes generalizing offset text with
  | case1 =>
    cases read
    rfl
  | case2 a rest shorter ih =>
    cases first : firstPiece a rest with
    | mk piece after =>
      rw [first] at read ih
      cases piece with
      | broken bytes cut => cases cut <;> simp [charsOf] at read
      | char c =>
        rw [charsOf] at read
        cases behind : charsOf (offset + (encodeChar c).length) (pieces after) with
        | error fault => simp [behind, Except.map] at read
        | ok chars =>
          rw [behind] at read
          cases read
          rw [firstPiece_char first, encode, List.flatMap_cons, ← encode, ih behind]

theorem encode_of_decode? {bytes : Bytes} {text : List Char} (read : decode? bytes = some text) :
    encode text = bytes := by
  unfold decode? decode at read
  cases chars : charsOf 0 (pieces bytes) with
  | error fault => simp [chars, Except.toOption] at read
  | ok found =>
    rw [chars] at read
    cases read
    exact encode_of_charsOf chars

end Utf8

end StrictFiles
