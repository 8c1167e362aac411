import StrictFiles.Proofs.AnnouncedEntries
import StrictFiles.Proofs.ExactVerdicts

/-!
The listing of a verbose report beside its partitions. Both come from the same diagnostics, but the
listing goes by the verdicts, and these keep the errors of vendored files that were discovered: such a
file is in no partition, yet it is listed. Without one of them the two say the same.
-/

namespace StrictFiles

namespace Reporter

/-- Files as the listing shows them, each on a line. -/
def lines (reporter : Reporter) (files : List Path) : String :=
  String.join (files.map fun file => reporter.shown file ++ "\n")

/-- The listing of files that pass and of files that fail, each behind its number. -/
def listingText (reporter : Reporter) (ok failing : List Path) : String :=
  let passed := ok.length
  let failed := failing.length
  s!"--- Files Ok: {passed} ---\n" ++ reporter.lines ok ++
    (s!"--- Files with errors: {failed} ---\n" ++ reporter.lines failing)

/-- The reporter without its listing. -/
def terse (reporter : Reporter) : Reporter :=
  { reporter with options := { reporter.options with verbose := false } }

variable (reporter : Reporter)

theorem render_fileLines (files : List Path) :
    reporter.render (reporter.fileLines "" files) = reporter.lines files := by
  induction files with
  | nil => rfl
  | cons file rest ih =>
    rw [lines, List.map_cons, String.join_cons, ← lines, ← ih, fileLines, List.map_cons, render_plain,
      String.empty_append]
    rfl

theorem render_verboseSection (verdicts : Verdicts) :
    reporter.render (reporter.verboseSection verdicts) =
      reporter.listingText verdicts.errorFree verdicts.failing := by
  rw [verboseSection, List.cons_append, render_plain, render_append, render_plain, render_fileLines,
    render_fileLines]
  unfold listingText
  simp only [String.append_assoc]

/-- A verbose report is the listing and then what is reported without it. -/
theorem render_report_verbose (verbose : reporter.options.verbose = true) (partitions : Partitions)
    (verdicts : Verdicts) :
    reporter.render (reporter.report partitions verdicts) =
      reporter.listingText verdicts.errorFree verdicts.failing ++
        reporter.terse.render (reporter.terse.report partitions verdicts) := by
  have quiet : ¬ reporter.terse.options.verbose = true := Bool.false_ne_true
  rw [report, report, if_pos verbose, if_neg quiet, List.nil_append, List.append_assoc,
    List.append_assoc, render_append, render_verboseSection, List.append_assoc]
  rfl

end Reporter

/-- The vendored files among the discovered ones that diagnostics count against, in the order of
discovery. -/
def vendoredFailing (vendor : VendorFilter) (discovered : List Path) (diagnostics : List Diagnostic) :
    List Path :=
  discovered.eraseDups.filter fun file => vendor.covers file ∧ Failing diagnostics file

/-- Lists of passing and failing files say what the partitions say, each file once and none vendored. -/
structure Partitions.Agrees (partitions : Partitions) (vendor : VendorFilter) (ok failing : List Path) :
    Prop where
  passed : ok.Perm (partitions.toInclude ++ partitions.alreadyOk)
  failed : failing.Perm (partitions.broken ++ partitions.remaining)
  counted : ok.length + failing.length = partitions.total
  own : ∀ file ∈ ok ++ failing, vendor.covers file = false

section Listing

variable (vendor : VendorFilter) (discovered declared : List Path) (diagnostics : List Diagnostic)

theorem mem_failing_verdictsOn {file : Path} :
    file ∈ (verdictsOn vendor discovered diagnostics).failing ↔
      file ∈ discovered ∧ Failing diagnostics file := by
  by_cases found : file ∈ discovered
  · rw [mem_failing_iff, hasErrors_verdictsOn found, and_iff_right found]
  · rw [mem_failing_iff, Verdicts.hasErrors, diagnostics?_verdictsOn,
      if_neg fun both => found both.1]
    simp [found]

theorem failing_nodup : (verdictsOn vendor discovered diagnostics).failing.Nodup := by
  rw [(verdictsOn_attributes vendor discovered diagnostics).failing, ← distinct_eq_eraseDups]
  exact distinct_nodup _

theorem mem_errorFree_verdictsOn {file : Path} :
    file ∈ (verdictsOn vendor discovered diagnostics).errorFree ↔
      (file ∈ discovered ∧ vendor.covers file = false) ∧ ¬ Failing diagnostics file := by
  rw [(verdictsOn_attributes vendor discovered diagnostics).errorFree, List.mem_filter,
    mem_filesToCheck, decide_eq_true_iff, mem_failing_verdictsOn]
  constructor
  · rintro ⟨⟨found, own⟩, passes⟩
    exact ⟨⟨found, own⟩, fun fails => passes ⟨found, fails⟩⟩
  · rintro ⟨⟨found, own⟩, passes⟩
    exact ⟨⟨found, own⟩, fun fails => passes fails.2⟩

theorem mem_vendoredFailing {file : Path} :
    file ∈ vendoredFailing vendor discovered diagnostics ↔
      file ∈ discovered ∧ vendor.covers file = true ∧ Failing diagnostics file := by
  rw [vendoredFailing, List.mem_filter, ← distinct_eq_eraseDups, mem_distinct, decide_eq_true_iff]

/-- The files listed as passing are those to include and those that are already declared. -/
theorem errorFree_perm :
    let partitions := partitionsOn vendor discovered declared diagnostics
    (verdictsOn vendor discovered diagnostics).errorFree.Perm
      (partitions.toInclude ++ partitions.alreadyOk) := by
  intro partitions
  have divides : partitions.Divides .. := partitionsOn_divides vendor discovered declared diagnostics
  have unique : (partitions.toInclude ++ partitions.alreadyOk).Nodup := by
    refine List.nodup_append'.mpr ⟨divides.unique _ (by simp [Partitions.parts]),
      divides.unique _ (by simp [Partitions.parts]), ?_⟩
    intro file included stayed
    exact ((divides.included file).mp included).2.2 ((divides.stayed file).mp stayed).2.2
  rw [List.perm_ext_iff_of_nodup _ unique]
  · intro file
    rw [mem_errorFree_verdictsOn, List.mem_append, divides.included, divides.stayed, ← and_or_left,
      ← and_or_left, or_comm, and_iff_left (Decidable.em _)]
  · exact (filesToCheck_nodup vendor discovered).filter _

/-- The files listed as failing are those of the partitions, and with them the vendored ones. -/
theorem failing_perm :
    let partitions := partitionsOn vendor discovered declared diagnostics
    (verdictsOn vendor discovered diagnostics).failing.Perm
      (partitions.broken ++ partitions.remaining ++ vendoredFailing vendor discovered diagnostics) := by
  intro partitions
  have divides : partitions.Divides .. := partitionsOn_divides vendor discovered declared diagnostics
  have unique : (partitions.broken ++ partitions.remaining ++
      vendoredFailing vendor discovered diagnostics).Nodup := by
    refine List.nodup_append'.mpr ⟨List.nodup_append'.mpr ⟨divides.unique _ (by simp [Partitions.parts]),
      divides.unique _ (by simp [Partitions.parts]), ?_⟩, ?_, ?_⟩
    · intro file broken remaining
      exact ((divides.remained file).mp remaining).2.2 ((divides.broke file).mp broken).2.2
    · rw [vendoredFailing, ← distinct_eq_eraseDups]
      exact (distinct_nodup discovered).filter _
    · intro file own vendored
      rw [List.mem_append, divides.broke, divides.remained, ← and_or_left] at own
      rw [mem_vendoredFailing, own.1.2] at vendored
      exact Bool.false_ne_true vendored.2.1
  rw [List.perm_ext_iff_of_nodup (failing_nodup vendor discovered diagnostics) unique]
  intro file
  rw [mem_failing_verdictsOn, List.mem_append, List.mem_append, divides.broke, divides.remained,
    mem_vendoredFailing, ← and_or_left, ← and_or_left, and_iff_left (Decidable.em _)]
  cases vendor.covers file <;> simp

/-- What the listing says agrees with the partitions exactly when no vendored file that was discovered
fails. -/
theorem agrees_iff :
    (partitionsOn vendor discovered declared diagnostics).Agrees vendor
        (verdictsOn vendor discovered diagnostics).errorFree
        (verdictsOn vendor discovered diagnostics).failing ↔
      vendoredFailing vendor discovered diagnostics = [] := by
  have passed := errorFree_perm vendor discovered declared diagnostics
  have failed := failing_perm vendor discovered declared diagnostics
  constructor
  · intro agrees
    have length := (agrees.failed.symm.trans failed).length_eq
    simp only [List.length_append] at length
    exact List.length_eq_zero_iff.mp (by omega)
  · intro none
    simp only [none, List.append_nil] at failed
    refine ⟨passed, failed, ?_, ?_⟩
    · rw [passed.length_eq, failed.length_eq, List.length_append, List.length_append,
        Partitions.total]
      omega
    · intro file listed
      rw [List.mem_append, mem_errorFree_verdictsOn, mem_failing_verdictsOn] at listed
      rcases listed with ⟨⟨_, own⟩, _⟩ | ⟨found, fails⟩
      · exact own
      · rw [← Bool.not_eq_true]
        intro vendored
        have member := (mem_vendoredFailing vendor discovered diagnostics).mpr ⟨found, vendored, fails⟩
        rw [none] at member
        exact List.not_mem_nil member

end Listing

/-- The verbose report against the partitions, for any front end that answers. It lists as passing
exactly the files to include and those already declared, and as failing the broken and the remaining
ones with every vendored file that was discovered and fails; by as many the two numbers exceed the
total. So the listing agrees with the partitions if and only if there is no such file. -/
theorem verboseListing_agrees_iff (frontEnd : FrontEnd) (options : Json) (vendor : VendorFilter)
    {discovered : List Path} (declared : List Path) {diagnostics : List Diagnostic}
    (nonempty : discovered ≠ [])
    (answer : frontEnd.answer (filesToCheck vendor discovered) options = .ok diagnostics) :
    ∃ verdicts partitions ok failing,
      (classify frontEnd discovered options vendor).result = .ok verdicts ∧
      reconcile discovered declared verdicts = .ok partitions ∧
      (∀ reporter : Reporter, reporter.options.verbose = true →
        reporter.render (reporter.report partitions verdicts) =
          reporter.listingText ok failing ++
            reporter.terse.render (reporter.terse.report partitions verdicts)) ∧
      ok.Perm (partitions.toInclude ++ partitions.alreadyOk) ∧
      failing.Perm (partitions.broken ++ partitions.remaining ++
        vendoredFailing vendor discovered diagnostics) ∧
      ok.length + failing.length =
        partitions.total + (vendoredFailing vendor discovered diagnostics).length ∧
      (partitions.Agrees vendor ok failing ↔
        ∀ file ∈ discovered, vendor.covers file = true → ¬ Failing diagnostics file) := by
  have passed := errorFree_perm vendor discovered declared diagnostics
  have failed := failing_perm vendor discovered declared diagnostics
  refine ⟨_, _, _, _, classify_of_answer answer, reconcile_verdictsOn nonempty declared diagnostics,
    fun reporter verbose => reporter.render_report_verbose verbose _ _, passed, failed, ?_, ?_⟩
  · rw [passed.length_eq, failed.length_eq, List.length_append, List.length_append, List.length_append,
      Partitions.total]
    omega
  · rw [agrees_iff, List.eq_nil_iff_forall_not_mem]
    simp only [mem_vendoredFailing, not_and]

/-- With only a code-free report on the vendored neighbour the listing agrees with the partitions. -/
theorem verboseListing_agrees_mixedReports :
    let told := [MixedReports.report MixedReports.failing 1,
      MixedReports.report MixedReports.vendored 0]
    ∃ verdicts partitions,
      MixedReports.verdicts told = .ok verdicts ∧
      reconcile [MixedReports.passing, MixedReports.failing, MixedReports.passing,
        MixedReports.vendored] [MixedReports.failing] verdicts = .ok partitions ∧
      ∃ ok failing, partitions.Agrees ⟨[[118]]⟩ ok failing := by
  intro told
  have nonempty : [MixedReports.passing, MixedReports.failing, MixedReports.passing,
      MixedReports.vendored] ≠ [] := List.cons_ne_nil _ _
  obtain ⟨verdicts, partitions, ok, failing, classified, reconciled, _, _, _, _, agrees⟩ :=
    verboseListing_agrees_iff (MixedReports.frontEnd told) (.object []) ⟨[[118]]⟩
      [MixedReports.failing] nonempty rfl
  exact ⟨verdicts, partitions, classified, reconciled, ok, failing, agrees.mpr (by decide)⟩

/-- A report against the vendored neighbour: the file is listed with the failing ones, and the numbers
go beyond the total. -/
theorem vendored_listed_mixedReports :
    let told := [MixedReports.report MixedReports.failing 1,
      MixedReports.report MixedReports.vendored 2]
    let reporter : Reporter := ⟨⟨true, false, false⟩, .root, "c"⟩
    ∃ verdicts partitions,
      MixedReports.verdicts told = .ok verdicts ∧
      reconcile [MixedReports.passing, MixedReports.failing, MixedReports.passing,
        MixedReports.vendored] [] verdicts = .ok partitions ∧
      reporter.render (reporter.report partitions verdicts) =
        "--- Files Ok: 1 ---\np\n" ++ "--- Files with errors: 2 ---\nq\nv/m\n" ++
          "\nInclude 1 file(s) to 'c'\np\n" ∧
      partitions.total = 2 ∧
      ¬ partitions.Agrees ⟨[[118]]⟩ verdicts.errorFree verdicts.failing := by
  intro told reporter
  refine ⟨_, _, rfl, rfl, ?_, rfl, ?_⟩
  · cbv
  · intro agrees
    have own := agrees.own MixedReports.vendored (by decide)
    exact absurd own (by decide)

end StrictFiles
