import StrictFiles.Proofs.FourParts
import StrictFiles.Proofs.PreparedRun
import StrictFiles.Proofs.RunEndings

/-!
How often the front end is asked. No run asks it twice, and what is recorded of the asking is all that
a run learns from it. When no file was discovered a whole run does not ask at all; one that starts with
the discovered files, and a classification on its own, still ask for nothing to be built, and only then
see that there is nothing to analyze.
-/

namespace StrictFiles

/-- What a front end is asked about discovered files. -/
def requestFor (vendor : VendorFilter) (config : Config) (discovered : List Path) : Request :=
  ⟨filesToCheck vendor discovered, config.compilerOptions⟩

/-- Each run of `call` asks the front end at most once, and has what it asked on record: another front
end that answers the same to that makes no difference. -/
structure AsksAtMostOnce {α : Type} (requests : α → List Request) (call : FrontEnd → α) : Prop where
  once : ∀ frontEnd, (requests (call frontEnd)).length ≤ 1
  inFull : ∀ frontEnd other, (∀ asked ∈ requests (call frontEnd),
    other.build asked.files asked.options = frontEnd.build asked.files asked.options) →
    call other = call frontEnd

/-- Why no classification is made when nothing was discovered. The front end is asked first, so that a
failure of its own hides the reason. -/
def failureOnNothing (frontEnd : FrontEnd) (config : Config) : RunError :=
  match frontEnd.answer [] config.compilerOptions with
  | .error cause => .compiler cause
  | .ok _ => .nothingToAnalyze config.directory .noFiles

theorem failureOnNothing_code (frontEnd : FrontEnd) (config : Config) :
    (failureOnNothing frontEnd config).code = "NO_FILES_TO_ANALYZE" ↔
      ∃ diagnostics, frontEnd.answer [] config.compilerOptions = .ok diagnostics := by
  rw [failureOnNothing]
  cases frontEnd.answer [] config.compilerOptions with
  | error cause => simp [RunError.code]
  | ok diagnostics => simp [RunError.code]

section Classified

variable (config : Config) (discovered : List Path) (vendor : VendorFilter)

theorem classifyProject_asks :
    AsksAtMostOnce Asked.requests (classifyProject · config discovered vendor) where
  once _ := Nat.le_refl 1
  inFull frontEnd other same := by
    have answered := same (requestFor vendor config discovered) List.mem_cons_self
    rw [requestFor] at answered
    simp only [classifyProject, classify]
    rw [answered]

theorem classifyProject_error {frontEnd : FrontEnd} {error : RunError}
    (failed : (classifyProject frontEnd config discovered vendor).result = .error error) :
    (∃ cause, error = .compiler cause) ∨ ∃ reason, error = .nothingToAnalyze config.directory reason := by
  rw [classifyProject] at failed
  rcases bind_eq_error.mp failed with refused | ⟨verdicts, _, failed⟩
  · obtain ⟨cause, _, rfl⟩ := mapError_eq_error.mp refused
    exact .inl ⟨cause, rfl⟩
  rcases bind_eq_error.mp failed with refused | ⟨partitions, _, failed⟩
  · obtain ⟨reason, _, rfl⟩ := mapError_eq_error.mp refused
    exact .inr ⟨reason, rfl⟩
  · cases failed

theorem classifyProject_nothing (frontEnd : FrontEnd) :
    (classifyProject frontEnd config [] vendor).result = .error (failureOnNothing frontEnd config) := by
  have classified := classify_result frontEnd [] config.compilerOptions vendor
  rw [classifyProject]
  dsimp only
  rw [classified, failureOnNothing]
  have nothing : filesToCheck vendor [] = [] := rfl
  rw [nothing]
  cases frontEnd.answer [] config.compilerOptions with
  | error cause => rfl
  | ok diagnostics => rfl

end Classified

section Prepared

variable (tree : FileTree) (options : RunOptions) (config : Config) (discovered : List Path)
  (output : Output)

/-- The front end is asked as soon as the run is announced. -/
theorem runPrepared_requests (frontEnd : FrontEnd) :
    (runPrepared tree options frontEnd config discovered output).requests =
      if announced? options config discovered output = none then []
      else [requestFor options.vendor config discovered] := by
  rcases runPrepared_ends tree options frontEnd config discovered output with
    cut | ⟨found, shown, reported, concluded⟩
  · generalize runPrepared tree options frontEnd config discovered output = ended at *
    cases cut with
    | unannounced full => rw [if_pos full]
    | unclassified written =>
      rw [if_neg (by simp [written])]
      rfl
    | unreported written =>
      rw [if_neg (by simp [written])]
      rfl
  · obtain ⟨announced, written, _⟩ := Option.bind_eq_some_iff.mp reported.complete
    rw [if_neg (by simp [written]), concluded.asked]
    rfl

theorem runPrepared_asks :
    AsksAtMostOnce Run.requests (runPrepared tree options · config discovered output) where
  once frontEnd := by
    rw [runPrepared_requests]
    split <;> simp
  inFull frontEnd other same := by
    rw [runPrepared_requests] at same
    simp only [runPrepared]
    by_cases full : announced? options config discovered output = none
    · rw [announced?] at full
      rw [full]
    · rw [if_neg full] at same
      rw [(classifyProject_asks config discovered options.vendor).inFull frontEnd other same]

/-- Without a discovered file the run is announced, asks for nothing to be built, and fails. -/
theorem runPrepared_nothing (frontEnd : FrontEnd) {announced : Output}
    (written : announced? options config [] output = some announced) :
    runPrepared tree options frontEnd config [] output =
      ⟨tree, announced, [requestFor options.vendor config []],
        .error (failureOnNothing frontEnd config)⟩ := by
  have failed := classifyProject_nothing config options.vendor frontEnd
  rw [announced?] at written
  rw [runPrepared]
  dsimp only
  rw [written]
  dsimp only
  rw [failed]
  rfl

end Prepared

section Whole

variable (environment : Environment) (options : RunOptions) (output : Output)

theorem run_asks : AsksAtMostOnce Run.requests (run environment options · output) := by
  cases prepared : prepare environment options with
  | error error =>
    have never (frontEnd : FrontEnd) : run environment options frontEnd output =
        ⟨environment.tree, output, [], .error error⟩ := by
      rw [run, prepared]
    constructor
    · intro frontEnd
      rw [never]
      exact Nat.zero_le 1
    · intro frontEnd other _
      rw [never, never]
  | ok start =>
    obtain ⟨config, discovered⟩ := start
    have asks := runPrepared_asks environment.tree options config discovered output
    constructor
    · intro frontEnd
      rw [run_of_prepared prepared]
      exact asks.once frontEnd
    · intro frontEnd other same
      rw [run_of_prepared prepared] at same ⊢
      rw [run_of_prepared prepared]
      exact asks.inFull frontEnd other same

/-- A whole run without files to analyze ends before anything is asked or written. -/
theorem run_nothing (frontEnd : FrontEnd) {path root : Path} {config : Config}
    (atPath : resolveOption environment options.config = .ok path)
    (atRoot : resolveOption environment options.source = .ok root)
    (loaded : Config.load environment.tree path = .ok config)
    (found : discover environment.tree root options.extensions = .ok []) :
    run environment options frontEnd output =
      ⟨environment.tree, output, [], .error (.nothingToAnalyze root .noFiles)⟩ := by
  have refused : prepare environment options = .error (.nothingToAnalyze root .noFiles) := by
    rw [prepare, atPath, atRoot]
    simp only [bind, Except.bind]
    rw [loaded]
    simp only [Except.mapError]
    rw [found]
    rfl
  rw [run, refused]

theorem run_requests_length (frontEnd : FrontEnd) :
    (run environment options frontEnd output).requests.length = 1 ↔
      ∃ config discovered, prepare environment options = .ok (config, discovered) ∧
        announced? options config discovered output ≠ none := by
  cases prepared : prepare environment options with
  | error error =>
    rw [run, prepared]
    simp
  | ok start =>
    obtain ⟨config, discovered⟩ := start
    rw [run_of_prepared prepared, runPrepared_requests]
    by_cases full : announced? options config discovered output = none <;> simp [full]

end Whole

/-- A whole run, a run of discovered files and a classification ask the front end at most once each. A
run asks exactly when it starts on discovered files and there is room to announce them, a classification
always; so without discovered files the whole run is the only one of the three that fails before it
asks. The other two fail after it, with the failure of the front end if that has one. -/
theorem frontEnd_asked_at_most_once (environment : Environment) (tree : FileTree)
    (options : RunOptions) (config : Config) (discovered : List Path) (vendor : VendorFilter)
    (output : Output) :
    (AsksAtMostOnce Run.requests (run environment options · output) ∧
      AsksAtMostOnce Run.requests (runPrepared tree options · config discovered output) ∧
      AsksAtMostOnce Asked.requests (classifyProject · config discovered vendor)) ∧
    ∀ frontEnd,
      ((run environment options frontEnd output).requests.length = 1 ↔
        ∃ config discovered, prepare environment options = .ok (config, discovered) ∧
          announced? options config discovered output ≠ none) ∧
      ((runPrepared tree options frontEnd config discovered output).requests.length = 1 ↔
        announced? options config discovered output ≠ none) ∧
      (classifyProject frontEnd config discovered vendor).requests.length = 1 ∧
      (∀ path root loaded, resolveOption environment options.config = .ok path →
        resolveOption environment options.source = .ok root →
        Config.load environment.tree path = .ok loaded →
        discover environment.tree root options.extensions = .ok [] →
        run environment options frontEnd output =
          ⟨environment.tree, output, [], .error (.nothingToAnalyze root .noFiles)⟩) ∧
      (∀ announced, announced? options config [] output = some announced →
        runPrepared tree options frontEnd config [] output =
          ⟨tree, announced, [requestFor options.vendor config []],
            .error (failureOnNothing frontEnd config)⟩) ∧
      (classifyProject frontEnd config [] vendor).result =
        .error (failureOnNothing frontEnd config) ∧
      ((failureOnNothing frontEnd config).code = "NO_FILES_TO_ANALYZE" ↔
        ∃ diagnostics, frontEnd.answer [] config.compilerOptions = .ok diagnostics) := by
  refine ⟨⟨run_asks environment options output, runPrepared_asks tree options config discovered output,
    classifyProject_asks config discovered vendor⟩, ?_⟩
  intro frontEnd
  refine ⟨run_requests_length environment options output frontEnd, ?_, rfl, ?_, ?_,
    classifyProject_nothing config vendor frontEnd, failureOnNothing_code frontEnd config⟩
  · rw [runPrepared_requests]
    by_cases full : announced? options config discovered output = none <;> simp [full]
  · intro path root loaded atPath atRoot load found
    exact run_nothing environment options output frontEnd atPath atRoot load found
  · intro announced written
    exact runPrepared_nothing tree options config output frontEnd written

/-- Without discovered files the front end is asked all the same, and one that fails hides that there
is nothing to analyze. -/
theorem asked_for_nothing_smallProject :
    (¬ ∀ (tree : FileTree) (options : RunOptions) (frontEnd : FrontEnd) (config : Config)
      (output : Output), output.room = none →
      (runPrepared tree options frontEnd config [] output).requests = []) ∧
    ¬ ∀ (frontEnd : FrontEnd) (config : Config) (vendor : VendorFilter), ∃ error,
      (classifyProject frontEnd config [] vendor).result = .error error ∧
      error.code = "NO_FILES_TO_ANALYZE" := by
  constructor
  · intro silent
    have asked := silent SmallProject.tree SmallProject.options SmallProject.frontEnd
      SmallProject.loaded .unlimited rfl
    rw [runPrepared_nothing _ _ _ _ _ rfl] at asked
    cases asked
  · intro told
    obtain ⟨error, failed, code⟩ := told ⟨fun _ _ => .error .pathNotText⟩ SmallProject.loaded .default
    rw [classifyProject_nothing, Except.error.injEq] at failed
    rw [← failed, failureOnNothing_code] at code
    obtain ⟨diagnostics, answer⟩ := code
    cases answer

end StrictFiles
