import Mathlib.Data.List.Induction
import StrictFiles.Check.Verdicts
import StrictFiles.Proofs.DistinctItems

/-!
Which diagnostics count against a file: those that name it and have a code, for files that were asked
for. The table of errors holds no more and no less than these.
-/

namespace StrictFiles

/-- Some diagnostic with a code names the file. -/
def Failing (diagnostics : List Diagnostic) (file : Path) : Prop :=
  ∃ diagnostic ∈ diagnostics, diagnostic.file = file ∧ diagnostic.code ≠ 0

instance (diagnostics : List Diagnostic) : DecidablePred (Failing diagnostics) := fun file =>
  inferInstanceAs (Decidable (∃ diagnostic ∈ diagnostics, diagnostic.file = file ∧ diagnostic.code ≠ 0))

/-- What a front end says of files: the diagnostics of the unit it builds over them. -/
def FrontEnd.answer (frontEnd : FrontEnd) (files : List Path) (options : Json) :
    Except CompilerError (List Diagnostic) := do
  (← frontEnd.build files options).diagnostics

/-- The verdicts that diagnostics on the candidates lead to. -/
def verdictsOn (vendor : VendorFilter) (candidates : List Path) (diagnostics : List Diagnostic) :
    Verdicts :=
  ⟨filesToCheck vendor candidates, .ofList (attributed candidates diagnostics)⟩

theorem classify_result (frontEnd : FrontEnd) (candidates : List Path) (options : Json)
    (vendor : VendorFilter) :
    (classify frontEnd candidates options vendor).result =
      (frontEnd.answer (filesToCheck vendor candidates) options).map (verdictsOn vendor candidates) := by
  rw [classify, FrontEnd.answer]
  cases frontEnd.build (filesToCheck vendor candidates) options with
  | error error => rfl
  | ok unit =>
    simp only [bind, Except.bind]
    cases unit.diagnostics <;> rfl

theorem classify_of_answer {frontEnd : FrontEnd} {candidates : List Path} {options : Json}
    {vendor : VendorFilter} {diagnostics : List Diagnostic}
    (answer : frontEnd.answer (filesToCheck vendor candidates) options = .ok diagnostics) :
    (classify frontEnd candidates options vendor).result =
      .ok (verdictsOn vendor candidates diagnostics) := by
  rw [classify_result, answer]
  rfl

namespace ErrorTable

theorem lookup_add (table : ErrorTable) (diagnostic : Diagnostic) (file : Path) :
    (table.add diagnostic).lookup file =
      if file = diagnostic.file then some ((table.lookup file).getD [] ++ [diagnostic])
      else table.lookup file := by
  induction table with
  | nil =>
    rw [add, List.lookup_cons]
    split
    · rename_i here
      rw [if_pos (by simpa using here)]
      rfl
    · rename_i elsewhere
      rw [if_neg (by simpa using elsewhere)]
  | cons row rest ih =>
    obtain ⟨known, errors⟩ := row
    rw [add]
    by_cases here : known = diagnostic.file
    · rw [if_pos here, List.lookup_cons, List.lookup_cons, here]
      by_cases named : file = diagnostic.file
      · simp [named]
      · simp [named, beq_false_of_ne named]
    · rw [if_neg here, List.lookup_cons, List.lookup_cons, ih]
      by_cases named : file = known
      · subst named
        simp [here]
      · simp [beq_false_of_ne named]

/-- The row of a file holds its diagnostics in the order they came; without any there is no row. -/
theorem lookup_ofList (diagnostics : List Diagnostic) (file : Path) :
    (ofList diagnostics).lookup file =
      if diagnostics.filter (·.file = file) = [] then none
      else some (diagnostics.filter (·.file = file)) := by
  induction diagnostics using List.reverseRecOn with
  | nil => rfl
  | append_singleton diagnostics last ih =>
    have grown : ofList (diagnostics ++ [last]) = (ofList diagnostics).add last := by
      rw [ofList, List.foldl_append, List.foldl_cons, List.foldl_nil, ofList]
    rw [grown, lookup_add, ih, List.filter_append]
    by_cases named : file = last.file
    · rw [if_pos named, List.filter_cons_of_pos (by simp [named]), List.filter_nil]
      by_cases first : diagnostics.filter (·.file = file) = []
      · rw [if_pos first, first]
        rfl
      · rw [if_neg first, if_neg (List.append_ne_nil_of_left_ne_nil first _)]
        rfl
    · rw [if_neg named, List.filter_cons_of_neg (by simpa using Ne.symm named), List.filter_nil,
        List.append_nil]

end ErrorTable

theorem mem_filesToCheck {vendor : VendorFilter} {candidates : List Path} {file : Path} :
    file ∈ filesToCheck vendor candidates ↔ file ∈ candidates ∧ vendor.covers file = false := by
  rw [filesToCheck, List.mem_filter, mem_distinct, Bool.not_eq_true']

theorem isChecked_verdictsOn {vendor : VendorFilter} {candidates : List Path}
    {diagnostics : List Diagnostic} {file : Path} :
    (verdictsOn vendor candidates diagnostics).isChecked file = true ↔
      file ∈ candidates ∧ vendor.covers file = false := by
  rw [Verdicts.isChecked, verdictsOn, decide_eq_true_iff, mem_filesToCheck]

/-- A candidate has errors exactly when it fails, whatever else was reported. -/
theorem hasErrors_verdictsOn {vendor : VendorFilter} {candidates : List Path}
    {diagnostics : List Diagnostic} {file : Path} (candidate : file ∈ candidates) :
    (verdictsOn vendor candidates diagnostics).hasErrors file = true ↔ Failing diagnostics file := by
  rw [Verdicts.hasErrors, Verdicts.diagnostics?, verdictsOn, ErrorTable.lookup_ofList]
  constructor
  · intro found
    split at found
    · cases found
    rename_i some
    obtain ⟨diagnostic, member⟩ := List.exists_mem_of_ne_nil _ some
    simp only [attributed, List.mem_filter, Diagnostic.isError, Bool.and_eq_true,
      decide_eq_true_iff] at member
    exact ⟨diagnostic, member.1.1, member.2, member.1.2.1⟩
  · rintro ⟨diagnostic, member, rfl, code⟩
    rw [if_neg, Option.isSome_some]
    apply List.ne_nil_of_mem (a := diagnostic)
    simp [attributed, Diagnostic.isError, member, code, candidate]

end StrictFiles
