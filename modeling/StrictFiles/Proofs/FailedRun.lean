import Mathlib
import StrictFiles.Proofs.PreparedRun
import StrictFiles.Proofs.RunEndings

/-!
What a failed run leaves behind. It is nothing, but for one way to fail: the line that confirms an
update comes after it, and the output may have no room for that line.
-/

namespace StrictFiles

/-- The run reports in full and writes the configuration, which makes the tree `after`; the output has
no room for the line that says so. -/
def Unconfirmed (tree : FileTree) (options : RunOptions) (frontEnd : FrontEnd) (config : Config)
    (discovered : List Path) (output : Output) (after : FileTree) : Prop :=
  ∃ found shown added, Reported options frontEnd config discovered output found shown ∧
    Promotes options found.partitions ∧
    Config.update tree config.path config.document found.partitions.toInclude = (after, .ok added) ∧
    confirmed? options config shown added = none

section

variable {tree : FileTree} {options : RunOptions} {frontEnd : FrontEnd} {config : Config}
  {discovered : List Path} {output : Output}

theorem runPrepared_unconfirmed {after : FileTree}
    (unconfirmed : Unconfirmed tree options frontEnd config discovered output after) :
    (runPrepared tree options frontEnd config discovered output).result = .error .outputFull ∧
      (runPrepared tree options frontEnd config discovered output).tree = after := by
  obtain ⟨found, shown, added, reported, promotes, updated, full⟩ := unconfirmed
  have concluded := concluded_of_reported tree reported
  generalize runPrepared tree options frontEnd config discovered output = ended at *
  cases concluded with
  | kept idle => exact (idle promotes).elim
  | refused _ failed =>
    rw [updated] at failed
    cases failed
  | unconfirmed _ known _ =>
    rw [updated] at known
    cases known
    exact ⟨rfl, rfl⟩
  | updated _ known confirmed =>
    rw [updated] at known
    cases known
    rw [full] at confirmed
    cases confirmed

theorem runPrepared_failed {error : RunError}
    (failed : (runPrepared tree options frontEnd config discovered output).result = .error error) :
    (runPrepared tree options frontEnd config discovered output).tree = tree ∨
      Unconfirmed tree options frontEnd config discovered output
        (runPrepared tree options frontEnd config discovered output).tree := by
  rcases runPrepared_ends tree options frontEnd config discovered output with
    cut | ⟨found, shown, reported, concluded⟩
  · exact .inl cut.failed.1
  · generalize runPrepared tree options frontEnd config discovered output = ended at *
    cases concluded with
    | kept => cases failed
    | refused => exact .inl rfl
    | unconfirmed promotes updated full =>
      exact .inr ⟨found, shown, _, reported, promotes, updated, full⟩
    | updated => cases failed

theorem runPrepared_trace_iff :
    ((∃ error, (runPrepared tree options frontEnd config discovered output).result = .error error) ∧
        (runPrepared tree options frontEnd config discovered output).tree ≠ tree) ↔
      ∃ after, after ≠ tree ∧ Unconfirmed tree options frontEnd config discovered output after := by
  constructor
  · rintro ⟨⟨error, failed⟩, changed⟩
    rcases runPrepared_failed failed with same | unconfirmed
    · exact (changed same).elim
    · exact ⟨_, changed, unconfirmed⟩
  · rintro ⟨after, changed, unconfirmed⟩
    obtain ⟨failed, left⟩ := runPrepared_unconfirmed unconfirmed
    exact ⟨⟨_, failed⟩, by rwa [left]⟩

end

/-- The failed runs that leave a trace, of prepared runs and of whole ones: exactly those that write
the configuration and have no room left to confirm it. -/
theorem failedRun_trace_iff (environment : Environment) (tree : FileTree) (options : RunOptions)
    (frontEnd : FrontEnd) (config : Config) (discovered : List Path) (output : Output) :
    (((∃ error, (runPrepared tree options frontEnd config discovered output).result = .error error) ∧
        (runPrepared tree options frontEnd config discovered output).tree ≠ tree) ↔
      ∃ after, after ≠ tree ∧ Unconfirmed tree options frontEnd config discovered output after) ∧
    (((∃ error, (run environment options frontEnd output).result = .error error) ∧
        (run environment options frontEnd output).tree ≠ environment.tree) ↔
      ∃ config discovered after, prepare environment options = .ok (config, discovered) ∧
        after ≠ environment.tree ∧
        Unconfirmed environment.tree options frontEnd config discovered output after) := by
  refine ⟨runPrepared_trace_iff, ?_⟩
  rw [run]
  cases prepared : prepare environment options with
  | error error => simp
  | ok found =>
    obtain ⟨loaded, files⟩ := found
    dsimp only
    rw [runPrepared_trace_iff]
    constructor
    · rintro ⟨after, changed, unconfirmed⟩
      exact ⟨loaded, files, after, rfl, changed, unconfirmed⟩
    · rintro ⟨_, _, after, same, changed, unconfirmed⟩
      cases same
      exact ⟨after, changed, unconfirmed⟩

/-- Room for the report, but not for the line behind the update: the run fails, and the file is listed
all the same. -/
theorem failedRun_trace_smallProject :
    ¬ ∀ (environment : Environment) (options : RunOptions) (frontEnd : FrontEnd) (output : Output)
      (error : RunError), (run environment options frontEnd output).result = .error error →
      (run environment options frontEnd output).tree = environment.tree := by
  intro traceless
  have prepared := run_of_prepared SmallProject.prepares SmallProject.frontEnd (.limited 70)
  have failed : (runPrepared SmallProject.tree SmallProject.options SmallProject.frontEnd
      SmallProject.loaded SmallProject.discovered (.limited 70)).result = .error .outputFull := by
    cbv
  have changed : decide ((runPrepared SmallProject.tree SmallProject.options SmallProject.frontEnd
      SmallProject.loaded SmallProject.discovered (.limited 70)).tree = SmallProject.tree) =
        false := by
    cbv
  have unchanged := traceless SmallProject.environment SmallProject.options SmallProject.frontEnd
    (.limited 70) .outputFull (by rw [prepared]; exact failed)
  rw [prepared] at unchanged
  exact of_decide_eq_false changed unchanged

end StrictFiles
