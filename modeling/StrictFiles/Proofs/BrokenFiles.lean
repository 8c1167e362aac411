import StrictFiles.Proofs.AnnouncedEntries
import StrictFiles.Proofs.ExactVerdicts

/-!
The last section of a report, on declared files that fail. It is there exactly when there are such
files, and shows each of them once with all that counts against it.
-/

namespace StrictFiles

/-- The regressions: declared files among the discovered ones that diagnostics count against, none of
them vendored, in the order of discovery. -/
def regressions (vendor : VendorFilter) (discovered declared : List Path)
    (diagnostics : List Diagnostic) : List Path :=
  discovered.eraseDups.filter fun file =>
    vendor.covers file = false ∧ file ∈ declared ∧ Failing diagnostics file

section Regressions

variable (vendor : VendorFilter) (discovered declared : List Path) (diagnostics : List Diagnostic)

theorem mem_regressions {file : Path} :
    file ∈ regressions vendor discovered declared diagnostics ↔
      file ∈ discovered ∧ vendor.covers file = false ∧ file ∈ declared ∧ Failing diagnostics file := by
  rw [regressions, List.mem_filter, ← distinct_eq_eraseDups, mem_distinct, decide_eq_true_iff]

theorem regressions_nodup : (regressions vendor discovered declared diagnostics).Nodup := by
  rw [regressions, ← distinct_eq_eraseDups]
  exact (distinct_nodup discovered).filter _

/-- The files that the partitions call broken. -/
theorem broken_partitionsOn :
    (partitionsOn vendor discovered declared diagnostics).broken =
      regressions vendor discovered declared diagnostics := by
  rw [regressions, ← distinct_eq_eraseDups]
  dsimp only [partitionsOn, Partitions.sortedBy, filesToCheck]
  rw [List.filter_filter]
  apply List.filter_congr
  intro file _
  cases vendor.covers file <;> simp [Bool.and_comm]

theorem errorsIn_ne_nil {file : Path} : errorsIn diagnostics file ≠ [] ↔ Failing diagnostics file := by
  rw [errorsIn, ne_eq, List.filter_eq_nil_iff]
  simp [Failing]

/-- No regression is without errors in the verdicts. -/
theorem diagnostics?_of_regression {file : Path}
    (regressed : file ∈ regressions vendor discovered declared diagnostics) :
    (verdictsOn vendor discovered diagnostics).diagnostics? file =
      some (errorsIn diagnostics file) := by
  obtain ⟨found, _, _, fails⟩ := (mem_regressions ..).mp regressed
  rw [diagnostics?_verdictsOn, if_pos ⟨found, (errorsIn_ne_nil diagnostics).mpr fails⟩]

end Regressions

namespace Reporter

/-- The line on an error. -/
def errorLine (diagnostic : Diagnostic) : String :=
  let code := diagnostic.code
  let message := diagnostic.message
  s!"\tTS{code}: {message}\n"

/-- The lines on a file with errors: their number, then a line on each. -/
def fileText (reporter : Reporter) (file : Path) (errors : List Diagnostic) : String :=
  let name := reporter.shown file
  let count := errors.length
  s!"File {name} was broken with {count} error(s)\n" ++ String.join (errors.map errorLine)

/-- The section on files with errors: their number, then the lines on each. -/
def brokenText (reporter : Reporter) (files : List Path) (errors : Path → List Diagnostic) : String :=
  let count := files.length
  s!"Found errors in {count} file(s)\n" ++
    String.join (files.map fun file => reporter.fileText file (errors file))

/-- The sections of a report in front of the one on broken files. -/
def above (reporter : Reporter) (partitions : Partitions) (verdicts : Verdicts) : List Span :=
  (if reporter.options.verbose then reporter.verboseSection verdicts else []) ++
    (if partitions.toInclude.isEmpty then [] else reporter.includeSection partitions.toInclude) ++
    if reporter.options.showRemaining then reporter.remainingSection partitions else []

variable {reporter : Reporter}

theorem render_alarming (uncolored : reporter.options.color = false) (text : String)
    (spans : List Span) :
    reporter.render (.alarming text :: spans) = text ++ reporter.render spans := by
  rw [render, render, Span.render_cons, uncolored]
  rfl

theorem render_diagnosticLine (uncolored : reporter.options.color = false) (diagnostic : Diagnostic) :
    reporter.render (diagnosticLine diagnostic) = errorLine diagnostic := by
  rw [diagnosticLine, render_plain, render_alarming uncolored, render_plain]
  simp only [errorLine, String.append_assoc]
  rfl

/-- Sections with something on each item are the texts on the items, one after another. -/
theorem render_flatMap {α : Type} {spans : α → List Span} {text : α → String} {items : List α}
    (each : ∀ item ∈ items, reporter.render (spans item) = text item) :
    reporter.render (items.flatMap spans) = String.join (items.map text) := by
  induction items with
  | nil => rfl
  | cons item rest ih =>
    rw [List.forall_mem_cons] at each
    rw [List.flatMap_cons, render_append, each.1, ih each.2, List.map_cons, String.join_cons]

theorem render_brokenFile (uncolored : reporter.options.color = false) {verdicts : Verdicts}
    {file : Path} {errors : List Diagnostic} (known : verdicts.diagnostics? file = some errors) :
    reporter.render (reporter.brokenFile verdicts file) = reporter.fileText file errors := by
  have lines := render_flatMap fun diagnostic (_ : diagnostic ∈ errors) =>
    render_diagnosticLine uncolored diagnostic
  rw [brokenFile, known, Option.getD_some, List.cons_append, List.cons_append, List.cons_append,
    List.nil_append, render_plain, render_alarming uncolored, render_plain, lines]
  simp only [fileText, String.append_assoc]
  rfl

theorem render_brokenSection (uncolored : reporter.options.color = false) {verdicts : Verdicts}
    {files : List Path} {errors : Path → List Diagnostic}
    (known : ∀ file ∈ files, verdicts.diagnostics? file = some (errors file)) :
    reporter.render (reporter.brokenSection files verdicts) = reporter.brokenText files errors := by
  have each := render_flatMap fun file member => render_brokenFile uncolored (known file member)
  rw [brokenSection, render_plain, each]
  rfl

/-- The section on broken files ends the report, when there are any. -/
theorem render_report_above (partitions : Partitions) (verdicts : Verdicts) :
    reporter.render (reporter.report partitions verdicts) =
      reporter.render (reporter.above partitions verdicts) ++
        if partitions.broken = [] then ""
        else reporter.render (reporter.brokenSection partitions.broken verdicts) := by
  rw [report, render_append, Partitions.hasBroken]
  cases partitions.broken <;> rfl

end Reporter

/-- The section of an uncolored report on broken files, for any front end that answers: it is there if
and only if a declared file that was discovered and is not vendored has a diagnostic with a code. It
gives the number of these files and then shows each of them once, in the order of discovery, with the
number of its diagnostics with a code, of which there is at least one, and each of these in the order
they were answered. All of them have their errors in the verdicts. -/
theorem brokenSection_shows_regressions (frontEnd : FrontEnd) (options : Json) (vendor : VendorFilter)
    {discovered : List Path} (declared : List Path) {diagnostics : List Diagnostic}
    (nonempty : discovered ≠ [])
    (answer : frontEnd.answer (filesToCheck vendor discovered) options = .ok diagnostics) :
    ∃ verdicts partitions,
      (classify frontEnd discovered options vendor).result = .ok verdicts ∧
      reconcile discovered declared verdicts = .ok partitions ∧
      let broken := regressions vendor discovered declared diagnostics
      (broken ≠ [] ↔ ∃ file ∈ discovered,
        vendor.covers file = false ∧ file ∈ declared ∧ Failing diagnostics file) ∧
      broken.Nodup ∧ broken.Sublist discovered.eraseDups ∧
      (∀ file ∈ broken, verdicts.diagnostics? file = some (errorsIn diagnostics file) ∧
        1 ≤ (errorsIn diagnostics file).length) ∧
      ∀ reporter : Reporter, reporter.options.color = false →
        reporter.render (reporter.report partitions verdicts) =
          reporter.render (reporter.above partitions verdicts) ++
            if broken = [] then "" else reporter.brokenText broken (errorsIn diagnostics) := by
  have known (file : Path) (member : file ∈ regressions vendor discovered declared diagnostics) :=
    diagnostics?_of_regression vendor discovered declared diagnostics member
  refine ⟨_, _, classify_of_answer answer, reconcile_verdictsOn nonempty declared diagnostics, ?_,
    regressions_nodup vendor discovered declared diagnostics, List.filter_sublist, ?_, ?_⟩
  · rw [ne_eq, List.eq_nil_iff_forall_not_mem, not_forall_not]
    simp only [mem_regressions]
  · intro file member
    refine ⟨known file member, List.length_pos_iff.mpr ?_⟩
    exact (errorsIn_ne_nil diagnostics).mpr ((mem_regressions ..).mp member).2.2.2
  · intro reporter uncolored
    rw [Reporter.render_report_above, broken_partitionsOn,
      Reporter.render_brokenSection uncolored known]

/-- Of two declared files that fail, the vendored one is not shown. -/
theorem brokenSection_shows_mixedReports :
    let told := [MixedReports.report MixedReports.failing 1,
      MixedReports.report MixedReports.vendored 2, MixedReports.report MixedReports.passing 0]
    let reporter : Reporter := ⟨⟨false, true, false⟩, .root, "c"⟩
    ∃ verdicts partitions,
      MixedReports.verdicts told = .ok verdicts ∧
      reconcile [MixedReports.passing, MixedReports.failing, MixedReports.passing,
        MixedReports.vendored] [MixedReports.vendored, MixedReports.failing] verdicts =
          .ok partitions ∧
      reporter.render (reporter.report partitions verdicts) =
        reporter.render (reporter.above partitions verdicts) ++
          ("Found errors in 1 file(s)\n" ++ "File q was broken with 1 error(s)\n\tTS1: \n") := by
  intro told reporter
  have nonempty : [MixedReports.passing, MixedReports.failing, MixedReports.passing,
      MixedReports.vendored] ≠ [] := List.cons_ne_nil _ _
  obtain ⟨verdicts, partitions, classified, reconciled, _, _, _, _, shows⟩ :=
    brokenSection_shows_regressions (MixedReports.frontEnd told) (.object []) ⟨[[118]]⟩
      [MixedReports.vendored, MixedReports.failing] nonempty rfl
  have broken : regressions ⟨[[118]]⟩ [MixedReports.passing, MixedReports.failing,
      MixedReports.passing, MixedReports.vendored] [MixedReports.vendored, MixedReports.failing]
      told = [MixedReports.failing] := by
    rw [regressions, ← distinct_eq_eraseDups]
    decide
  have errors : errorsIn told MixedReports.failing = [MixedReports.report MixedReports.failing 1] := by
    decide
  have lines : reporter.fileText MixedReports.failing [MixedReports.report MixedReports.failing 1] =
      "File q was broken with 1 error(s)\n\tTS1: \n" := by
    cbv
  have text : reporter.brokenText [MixedReports.failing] (errorsIn told) =
      "Found errors in 1 file(s)\n" ++ "File q was broken with 1 error(s)\n\tTS1: \n" := by
    unfold Reporter.brokenText
    rw [List.map_singleton, String.join_cons, String.join_nil, errors, lines, String.append_empty]
    rfl
  refine ⟨verdicts, partitions, classified, reconciled, ?_⟩
  rw [shows reporter rfl, broken, if_neg (List.cons_ne_nil _ _), text]

end StrictFiles
