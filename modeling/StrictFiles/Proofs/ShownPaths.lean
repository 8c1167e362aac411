import Mathlib.Data.List.Infix
import StrictFiles.Check.Report
import StrictFiles.Proofs.Utf8RoundTrip

/-!
Escapes in the paths that a report shows. A file is shown by the way that leads to it, and that way has
no names but those of the file: whatever the directory it starts from, it shows an escape only when the
file itself has one.
-/

namespace StrictFiles

/-- The character with which marks start. -/
def escape : Char := '\x1b'

/-- The byte of that character. -/
def escapeByte : UInt8 := 27

namespace Utf8

theorem firstPiece_rest (a : UInt8) (rest : Bytes) : (firstPiece a rest).2 <:+ rest := by
  unfold firstPiece
  split
  · exact List.suffix_refl rest
  · split
    · exact List.suffix_refl rest
    · dsimp only
      split <;> exact List.drop_suffix _ _

/-- An escape is read where its byte stands, and nowhere else. -/
theorem escapeByte_mem {bytes : Bytes} (shown : escape ∈ decodeLossy bytes) : escapeByte ∈ bytes := by
  unfold decodeLossy at shown
  fun_induction pieces bytes with
  | case1 => cases shown
  | case2 a rest shorter ih =>
    have behind : (firstPiece a rest).2 ⊆ rest := (firstPiece_rest a rest).subset
    rw [List.map_cons, List.mem_cons] at shown
    rcases shown with here | later
    · cases first : firstPiece a rest with
      | mk piece after =>
        rw [first] at here
        cases piece with
        | broken bytes cut => cases here
        | char c =>
          obtain rfl : escape = c := here
          rw [firstPiece_char first]
          exact List.mem_append_left _ List.mem_cons_self
    · exact List.mem_cons_of_mem a (behind (ih later))

end Utf8

namespace Path

theorem mem_joinSlashes {b : UInt8} (noSlash : b ≠ slash) {pieces : List Bytes} :
    b ∈ joinSlashes pieces ↔ ∃ piece ∈ pieces, b ∈ piece := by
  fun_induction joinSlashes pieces with
  | case1 => simp
  | case2 piece => simp
  | case3 piece pieces more ih =>
    rw [List.mem_append, List.mem_cons, ih]
    simp [noSlash]

/-- The bytes of a path are those of its names, points and slashes apart. -/
theorem mem_toBytes {b : UInt8} (letter : b ≠ slash ∧ b ≠ 46) (path : Path) :
    b ∈ path.toBytes ↔ ∃ name ∈ path.names, b ∈ name.bytes := by
  obtain ⟨noSlash, noPoint⟩ := letter
  cases path with
  | absolute names =>
    rw [toBytes, List.mem_cons, mem_joinSlashes noSlash]
    simp [noSlash, Path.names]
  | relative climbs names =>
    rw [toBytes, mem_joinSlashes noSlash]
    simp [noPoint, Path.names, or_and_right, exists_or]

theorem mem_names_append {path : Path} {part : Part} {name : Name}
    (member : name ∈ (path.append part).names) : name ∈ path.names ∨ part = .name name := by
  cases part with
  | root => cases member
  | up =>
    left
    cases path with
    | absolute names => exact List.mem_of_mem_dropLast member
    | relative climbs names =>
      cases names with
      | nil => exact member
      | cons first rest => exact List.mem_of_mem_dropLast member
  | name n =>
    have behind : (path.append (.name n)).names = path.names ++ [n] := by
      rcases path with names | ⟨climbs, _ | ⟨first, names⟩⟩ <;> rfl
    rw [behind, List.mem_append, List.mem_singleton] at member
    exact member.imp_right fun same => by rw [same]

theorem mem_names_foldl_append {parts : List Part} {start : Path} {name : Name}
    (member : name ∈ (parts.foldl append start).names) : name ∈ start.names ∨ .name name ∈ parts := by
  induction parts generalizing start with
  | nil => exact .inl member
  | cons part parts ih =>
    rcases ih member with first | later
    · exact (mem_names_append first).imp_right fun same => by rw [same]; exact List.mem_cons_self
    · exact .inr (List.mem_cons_of_mem part later)

/-- The way to a path has no names but those of the path. -/
theorem mem_names_relativeTo {target base : Path} {name : Name}
    (member : name ∈ (target.relativeTo base).names) : name ∈ target.names := by
  rcases mem_names_foldl_append member with climbs | below
  · cases climbs
  · have part := List.mem_of_mem_drop below
    cases target <;> simpa [parts, Path.names] using part

end Path

theorem Reporter.escape_not_mem_shown (reporter : Reporter) {file : Path}
    (plain : escapeByte ∉ file.toBytes) : escape ∉ (reporter.shown file).toList := by
  have letter : escapeByte ≠ slash ∧ escapeByte ≠ 46 := by decide
  intro shown
  rw [Reporter.shown, Path.display, String.toList_ofList] at shown
  obtain ⟨name, member, byte⟩ := (Path.mem_toBytes letter _).mp (Utf8.escapeByte_mem shown)
  exact plain ((Path.mem_toBytes letter file).mpr ⟨name, Path.mem_names_relativeTo member, byte⟩)

end StrictFiles
