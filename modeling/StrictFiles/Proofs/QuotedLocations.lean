import StrictFiles.Proofs.LocatedLines

/-!
Messages that quote a line of compiler output. Such a message is cut at the location it quotes, and all
in front of that becomes the file: a diagnostic comes back from its line exactly when its message holds
no location.
-/

namespace StrictFiles

namespace CompilerOutput

/-- A diagnostic is read back from its line exactly when no location stands in its message. Otherwise
whatever is read names another file: one that starts with the file and the location in front of the
message. -/
theorem diagnostic_kept_iff {file : List Char} (nonempty : file ≠ []) {line column code : Nat}
    (small : line < 0x100000000 ∧ column < 0x100000000 ∧ code < 0x100000000) (category : Category)
    (message : List Char) :
    let location := Location.printed line column category code
    let text := file ++ (location.text ++ message)
    (reported? text = some ⟨file, line, column, code, message⟩ ↔ ¬ HoldsLocation message) ∧
      (HoldsLocation message → ∀ found, reported? text = some found →
        file ++ location.text <+: found.file ∧ found.file ≠ file) := by
  intro location text
  have quoting (holds : HoldsLocation message) (found : Reported)
      (read : reported? text = some found) :
      file ++ location.text <+: found.file ∧ found.file ≠ file := by
    obtain ⟨inner, last⟩ : ∃ inner, lastLocation? message = some inner := by
      rw [← Option.ne_none_iff_exists', Ne, lastLocation?_eq_none]
      exact not_not_intro holds
    have taken : found.file = file ++ (location.text ++ inner.file) :=
      file_of_reported? (locatedLine?_quoted nonempty location last) read
    rw [taken]
    refine ⟨⟨inner.file, by rw [List.append_assoc]⟩, ?_⟩
    simp [Location.text]
  refine ⟨⟨?_, ?_⟩, quoting⟩
  · intro kept holds
    exact (quoting holds _ kept).2 rfl
  · intro plain
    exact reported?_printed nonempty plain small category

/-- The file `a.ts`, with a message that quotes no line. -/
theorem diagnostic_kept_plainMessage :
    reported? "a.ts(1,7): error TS2322: (1,2): no".toList =
      some ⟨"a.ts".toList, 1, 7, 2322, "(1,2): no".toList⟩ := by
  have plain : ¬ HoldsLocation "(1,2): no".toList :=
    lastLocation?_eq_none.mp rfl
  obtain ⟨kept, _⟩ := @diagnostic_kept_iff "a.ts".toList (by decide) 1 7 2322 (by decide) .error
    "(1,2): no".toList
  exact kept.mpr plain

/-- The file `a.ts`, with a message about a literal that reads like a line on `b.ts`: what is read names
neither file, and has the number and the end of the quoted line. -/
theorem quotedLine_takes_file :
    let file := "a.ts".toList
    let message := "Type '\"b.ts(1,2): error TS1: x\"' is not assignable to type '\"a\"'.".toList
    let text := file ++ ((Location.printed 1 7 .error 2322).text ++ message)
    isIndented file = false ∧ '\n' ∉ file ∧ ¬ HoldsLocation file ∧ '\n' ∉ message ∧
      reported? text = some ⟨"a.ts(1,7): error TS2322: Type '\"b.ts".toList, 1, 2, 1,
        "x\"' is not assignable to type '\"a\"'.".toList⟩ ∧
      reported? text ≠ some ⟨file, 1, 7, 2322, message⟩ := by
  intro file message text
  have read : reported? text = some ⟨"a.ts(1,7): error TS2322: Type '\"b.ts".toList, 1, 2, 1,
      "x\"' is not assignable to type '\"a\"'.".toList⟩ := by
    decide +kernel
  refine ⟨rfl, by decide, lastLocation?_eq_none.mp rfl, by decide, read, ?_⟩
  rw [read]
  decide

end CompilerOutput

end StrictFiles
