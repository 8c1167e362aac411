import Mathlib
import StrictFiles.Check.Run
import StrictFiles.Proofs.Attribution
import StrictFiles.Proofs.FallibleSteps

/-!
The four parts of the discovered files. Each file that is not vendored is in one of them, by whether
it fails and whether it is declared; nothing else about the declared files and the diagnostics counts.
-/

namespace StrictFiles

namespace Partitions

def parts (partitions : Partitions) : List (List Path) :=
  [partitions.toInclude, partitions.broken, partitions.remaining, partitions.alreadyOk]

/-- How partitions divide the discovered files. -/
structure Divides (partitions : Partitions) (vendor : VendorFilter) (discovered declared : List Path)
    (diagnostics : List Diagnostic) : Prop where
  unique : ∀ part ∈ partitions.parts, part.Nodup
  apart : partitions.parts.Pairwise List.Disjoint
  /-- In the order of first discovery. -/
  ordered : ∀ part ∈ partitions.parts, part.Sublist discovered.eraseDups
  covered : ∀ file, (∃ part ∈ partitions.parts, file ∈ part) ↔
    file ∈ discovered ∧ vendor.covers file = false
  counted : partitions.total = (discovered.filter fun file => !vendor.covers file).toFinset.card
  included : ∀ file, file ∈ partitions.toInclude ↔
    (file ∈ discovered ∧ vendor.covers file = false) ∧ ¬ Failing diagnostics file ∧ file ∉ declared
  broke : ∀ file, file ∈ partitions.broken ↔
    (file ∈ discovered ∧ vendor.covers file = false) ∧ Failing diagnostics file ∧ file ∈ declared
  remained : ∀ file, file ∈ partitions.remaining ↔
    (file ∈ discovered ∧ vendor.covers file = false) ∧ Failing diagnostics file ∧ file ∉ declared
  stayed : ∀ file, file ∈ partitions.alreadyOk ↔
    (file ∈ discovered ∧ vendor.covers file = false) ∧ ¬ Failing diagnostics file ∧ file ∈ declared

/-- Files sorted by whether they fail and whether they are declared. -/
def sortedBy (failing declared : Path → Bool) (files : List Path) : Partitions where
  toInclude := files.filter fun file => !failing file && !declared file
  broken := files.filter fun file => failing file && declared file
  remaining := files.filter fun file => failing file && !declared file
  alreadyOk := files.filter fun file => !failing file && declared file

section SortedBy

variable (failing declared : Path → Bool) (files : List Path)

theorem sortedBy_sublist : ∀ part ∈ (sortedBy failing declared files).parts, part.Sublist files := by
  intro part member
  simp only [parts, sortedBy, List.mem_cons, List.not_mem_nil, or_false] at member
  rcases member with rfl | rfl | rfl | rfl <;> exact List.filter_sublist

/-- A file goes by its two answers, so no two parts share one. -/
theorem sortedBy_apart : (sortedBy failing declared files).parts.Pairwise List.Disjoint := by
  have disjoint {first second : Path → Bool} (never : ∀ file, (first file && second file) = false) :
      List.Disjoint (files.filter first) (files.filter second) := by
    intro file here there
    have both := never file
    rw [(List.mem_filter.mp here).2, (List.mem_filter.mp there).2] at both
    cases both
  simp only [parts, sortedBy, List.pairwise_cons, List.mem_cons, List.not_mem_nil, or_false,
    forall_eq_or_imp, forall_eq, List.Pairwise.nil, and_true, false_implies, implies_true]
  refine ⟨⟨?_, ?_, ?_⟩, ⟨?_, ?_⟩, ?_⟩ <;>
    exact disjoint fun file => by cases failing file <;> cases declared file <;> rfl

theorem mem_sortedBy {file : Path} :
    (∃ part ∈ (sortedBy failing declared files).parts, file ∈ part) ↔ file ∈ files := by
  constructor
  · rintro ⟨part, among, member⟩
    exact (sortedBy_sublist failing declared files part among).subset member
  · intro member
    simp only [parts, sortedBy, List.mem_cons, List.not_mem_nil, or_false, exists_eq_or_imp,
      exists_eq_left, List.mem_filter, member, true_and]
    cases failing file <;> cases declared file <;> simp

theorem total_sortedBy : (sortedBy failing declared files).total = files.length := by
  induction files with
  | nil => rfl
  | cons file rest ih =>
    simp only [total, sortedBy, List.filter_cons, List.length_cons] at ih ⊢
    cases failing file <;> cases declared file <;> simp <;> omega

theorem sortedBy_congr {failing declared otherFailing otherDeclared : Path → Bool} {files : List Path}
    (sameFailing : ∀ file ∈ files, otherFailing file = failing file)
    (sameDeclared : ∀ file ∈ files, otherDeclared file = declared file) :
    sortedBy otherFailing otherDeclared files = sortedBy failing declared files := by
  rw [sortedBy, sortedBy, Partitions.mk.injEq]
  refine ⟨?_, ?_, ?_, ?_⟩ <;>
    exact List.filter_congr fun file member => by rw [sameFailing file member, sameDeclared file member]

end SortedBy

end Partitions

/-- The partitions that diagnostics on the discovered files lead to. -/
def partitionsOn (vendor : VendorFilter) (discovered declared : List Path)
    (diagnostics : List Diagnostic) : Partitions :=
  .sortedBy (fun file => decide (Failing diagnostics file)) (fun file => decide (file ∈ declared))
    (filesToCheck vendor discovered)

theorem filesToCheck_sublist (vendor : VendorFilter) (candidates : List Path) :
    (filesToCheck vendor candidates).Sublist (distinct candidates) :=
  List.filter_sublist

theorem filesToCheck_nodup (vendor : VendorFilter) (candidates : List Path) :
    (filesToCheck vendor candidates).Nodup :=
  (distinct_nodup candidates).filter _

/-- What is reconciled are the files that were checked, in the same order. -/
theorem distinct_filter_isChecked (vendor : VendorFilter) (discovered : List Path)
    (diagnostics : List Diagnostic) :
    distinct (discovered.filter (verdictsOn vendor discovered diagnostics).isChecked) =
      filesToCheck vendor discovered := by
  have checked : discovered.filter (verdictsOn vendor discovered diagnostics).isChecked =
      discovered.filter fun file => !vendor.covers file := by
    apply List.filter_congr
    intro file member
    rw [Bool.eq_iff_iff, isChecked_verdictsOn, Bool.not_eq_true']
    exact and_iff_right member
  rw [checked, distinct_filter, filesToCheck]

theorem reconcile_verdictsOn {vendor : VendorFilter} {discovered : List Path} (nonempty : discovered ≠ [])
    (declared : List Path) (diagnostics : List Diagnostic) :
    reconcile discovered declared (verdictsOn vendor discovered diagnostics) =
      .ok (partitionsOn vendor discovered declared diagnostics) := by
  have errors : ∀ file ∈ filesToCheck vendor discovered,
      (verdictsOn vendor discovered diagnostics).hasErrors file =
        decide (Failing diagnostics file) := by
    intro file member
    rw [Bool.eq_iff_iff, hasErrors_verdictsOn (mem_filesToCheck.mp member).1, decide_eq_true_iff]
  rw [reconcile, if_neg (by simpa using nonempty), distinct_filter_isChecked]
  dsimp only
  congr 2
  all_goals
    apply List.filter_congr
    intro file member
    rw [errors file member]
    dsimp only
    cases decide (Failing diagnostics file) <;> cases decide (file ∈ declared) <;> rfl

/-- The partitions of the discovered files, once a front end has checked them. -/
def Splits (frontEnd : FrontEnd) (options : Json) (vendor : VendorFilter)
    (discovered declared : List Path) (partitions : Partitions) : Prop :=
  ∃ verdicts, (classify frontEnd discovered options vendor).result = .ok verdicts ∧
    reconcile discovered declared verdicts = .ok partitions

theorem splits_of_answer {frontEnd : FrontEnd} {options : Json} {vendor : VendorFilter}
    {discovered : List Path} {diagnostics : List Diagnostic} (declared : List Path)
    (nonempty : discovered ≠ [])
    (answer : frontEnd.answer (filesToCheck vendor discovered) options = .ok diagnostics) :
    Splits frontEnd options vendor discovered declared
      (partitionsOn vendor discovered declared diagnostics) :=
  ⟨verdictsOn vendor discovered diagnostics, classify_of_answer answer,
    reconcile_verdictsOn nonempty declared diagnostics⟩

theorem partitionsOn_divides (vendor : VendorFilter) (discovered declared : List Path)
    (diagnostics : List Diagnostic) :
    (partitionsOn vendor discovered declared diagnostics).Divides vendor discovered declared
      diagnostics := by
  have within := Partitions.sortedBy_sublist (fun file => decide (Failing diagnostics file))
    (fun file => file ∈ declared) (filesToCheck vendor discovered)
  refine ⟨?_, Partitions.sortedBy_apart .., ?_, ?_, ?_, ?_, ?_, ?_, ?_⟩
  · intro part among
    exact (filesToCheck_nodup vendor discovered).sublist (within part among)
  · intro part among
    rw [← distinct_eq_eraseDups]
    exact (within part among).trans (filesToCheck_sublist vendor discovered)
  · intro file
    rw [partitionsOn, Partitions.mem_sortedBy, mem_filesToCheck]
  · rw [partitionsOn, Partitions.total_sortedBy, filesToCheck, ← distinct_filter,
      ← List.toFinset_card_of_nodup (distinct_nodup _)]
    congr 1
    ext file
    rw [List.mem_toFinset, List.mem_toFinset, mem_distinct]
  all_goals
    intro file
    simp only [partitionsOn, Partitions.sortedBy, List.mem_filter, mem_filesToCheck,
      Bool.and_eq_true, Bool.not_eq_true', decide_eq_true_eq, decide_eq_false_iff_not]

/-- Other diagnostics and other declared files lead to the same partitions, when they agree on the
files that are checked. -/
theorem partitionsOn_congr {vendor : VendorFilter} {discovered declared otherDeclared : List Path}
    {diagnostics otherDiagnostics : List Diagnostic}
    (failing : ∀ file ∈ filesToCheck vendor discovered,
      (Failing otherDiagnostics file ↔ Failing diagnostics file))
    (known : ∀ file ∈ filesToCheck vendor discovered, (file ∈ otherDeclared ↔ file ∈ declared)) :
    partitionsOn vendor discovered otherDeclared otherDiagnostics =
      partitionsOn vendor discovered declared diagnostics :=
  Partitions.sortedBy_congr (fun file member => decide_eq_decide.mpr (failing file member))
    fun file member => decide_eq_decide.mpr (known file member)

theorem statusOf_eq_broken {partitions : Partitions} :
    RunStatus.of partitions = .broken ↔ ∃ file, file ∈ partitions.broken := by
  rw [RunStatus.of, Partitions.hasBroken]
  cases partitions.broken with
  | nil => simp
  | cons file rest => simp

/-- Every discovered file that is not vendored is in one part, by whether it fails and whether it is
declared, and nothing else makes a difference: any front end, options, diagnostics and declared files
that agree on which of these files fail and which are declared lead to the same parts. The run is
broken when a declared file fails. -/
theorem splits_exactly (frontEnd : FrontEnd) (options : Json) (vendor : VendorFilter)
    {discovered : List Path} (declared : List Path) {diagnostics : List Diagnostic}
    (nonempty : discovered ≠ [])
    (answer : frontEnd.answer (filesToCheck vendor discovered) options = .ok diagnostics) :
    ∃ partitions,
      Splits frontEnd options vendor discovered declared partitions ∧
      partitions.Divides vendor discovered declared diagnostics ∧
      (RunStatus.of partitions = .broken ↔ ∃ file ∈ discovered,
        vendor.covers file = false ∧ file ∈ declared ∧ Failing diagnostics file) ∧
      ∀ (otherFrontEnd : FrontEnd) (otherOptions : Json) (otherDeclared : List Path)
        (otherDiagnostics : List Diagnostic),
        otherFrontEnd.answer (filesToCheck vendor discovered) otherOptions = .ok otherDiagnostics →
        (∀ file ∈ filesToCheck vendor discovered,
          (Failing otherDiagnostics file ↔ Failing diagnostics file)) →
        (∀ file ∈ filesToCheck vendor discovered, (file ∈ otherDeclared ↔ file ∈ declared)) →
        Splits otherFrontEnd otherOptions vendor discovered otherDeclared partitions := by
  have divides := partitionsOn_divides vendor discovered declared diagnostics
  refine ⟨_, splits_of_answer declared nonempty answer, divides, ?_, ?_⟩
  · rw [statusOf_eq_broken]
    constructor
    · rintro ⟨file, member⟩
      obtain ⟨⟨found, own⟩, fails, known⟩ := (divides.broke file).mp member
      exact ⟨file, found, own, known, fails⟩
    · rintro ⟨file, found, own, known, fails⟩
      exact ⟨file, (divides.broke file).mpr ⟨⟨found, own⟩, fails, known⟩⟩
  · intro otherFrontEnd otherOptions otherDeclared otherDiagnostics otherAnswer failing known
    have same := splits_of_answer otherDeclared nonempty otherAnswer
    rwa [partitionsOn_congr failing known] at same

/-- A file found twice that passes, and a declared one that fails. -/
theorem splits_regression :
    let passing : Path := .absolute [⟨[97], by decide⟩]
    let regressed : Path := .absolute [⟨[98], by decide⟩]
    let diagnostics : List Diagnostic := [⟨regressed, 2322, "", 0, 1, 1⟩, ⟨passing, 0, "", 0, 1, 1⟩]
    ∃ partitions,
      Splits ⟨fun _ _ => .ok ⟨.ok diagnostics⟩⟩ (.object []) ⟨[]⟩ [passing, regressed, passing]
        [regressed] partitions ∧
      partitions.total = 2 ∧ RunStatus.of partitions = .broken := by
  intro passing regressed diagnostics
  have answer : FrontEnd.answer ⟨fun _ _ => .ok ⟨.ok diagnostics⟩⟩
      (filesToCheck ⟨[]⟩ [passing, regressed, passing]) (.object []) = .ok diagnostics := rfl
  obtain ⟨partitions, splits, divides, broken, -⟩ :=
    splits_exactly _ _ _ [regressed] (List.cons_ne_nil _ _) answer
  refine ⟨partitions, splits, ?_, broken.mpr ?_⟩
  · rw [divides.counted]
    decide
  · exact ⟨regressed, by decide, by decide, by decide, by decide⟩

/-- A classified project: the front end has answered, and its diagnostics decide all else. -/
theorem classifyProject_eq_ok {frontEnd : FrontEnd} {config : Config} {discovered : List Path}
    {vendor : VendorFilter} {found : Classification} :
    (classifyProject frontEnd config discovered vendor).result = .ok found ↔
      discovered ≠ [] ∧ ∃ diagnostics,
        frontEnd.answer (filesToCheck vendor discovered) config.compilerOptions = .ok diagnostics ∧
        found = ⟨verdictsOn vendor discovered diagnostics,
          partitionsOn vendor discovered config.declared diagnostics⟩ := by
  rw [classifyProject]
  dsimp only
  constructor
  · intro classified
    obtain ⟨verdicts, checked, sorted⟩ := bind_eq_ok.mp classified
    obtain ⟨partitions, reconciled, same⟩ := bind_eq_ok.mp sorted
    cases same
    rw [mapError_eq_ok] at checked reconciled
    have nonempty : discovered ≠ [] := by
      rintro rfl
      cases reconciled
    rw [classify_result] at checked
    cases answer : frontEnd.answer (filesToCheck vendor discovered) config.compilerOptions with
    | error error =>
      rw [answer] at checked
      cases checked
    | ok diagnostics =>
      rw [answer] at checked
      cases checked
      rw [reconcile_verdictsOn nonempty] at reconciled
      cases reconciled
      exact ⟨nonempty, diagnostics, rfl, rfl⟩
  · rintro ⟨nonempty, diagnostics, answer, rfl⟩
    refine bind_eq_ok.mpr ⟨verdictsOn vendor discovered diagnostics, ?_, ?_⟩
    · exact mapError_eq_ok.mpr (classify_of_answer answer)
    · refine bind_eq_ok.mpr ⟨partitionsOn vendor discovered config.declared diagnostics, ?_, rfl⟩
      rw [mapError_eq_ok]
      exact reconcile_verdictsOn nonempty config.declared diagnostics

end StrictFiles
