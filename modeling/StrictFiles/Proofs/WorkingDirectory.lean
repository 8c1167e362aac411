import StrictFiles.Compiler.Tsc
import StrictFiles.Proofs.AskedOnce

/-!
What the working directory means to a run. Path texts that start at the root lead to the same place
from everywhere, and nothing else of a run looks at the directory. It is asked for all the same before
any path text is resolved, so a run fails without one even when no path needs it.
-/

namespace StrictFiles

/-- The same surroundings with another working directory, or with none. -/
def Environment.seenFrom (environment : Environment) (directory : Option Location) : Environment :=
  { environment with workingDirectory := directory }

/-- The path texts of the configuration and of the source directory start at the root. -/
structure RunOptions.Rooted (options : RunOptions) : Prop where
  config : isRooted options.config = true
  source : isRooted options.source = true

theorem Path.resolve_of_rooted {text : Bytes} (rooted : isRooted text = true) (base other : Path) :
    resolve text other = resolve text base := by
  rw [resolve, resolve, if_pos rooted, if_pos rooted]

theorem RunError.code_eq_workingDirectory {error : RunError} :
    error.code = "WORKING_DIRECTORY_ERROR" ↔ ∃ cause, error = .workingDirectory cause := by
  constructor
  · intro code
    cases error with
    | workingDirectory cause => exact ⟨cause, rfl⟩
    | load error => cases error with | mk path failure => cases failure <;> simp [RunError.code] at code
    | discover error =>
      cases error with | mk root failure => cases failure <;> simp [RunError.code] at code
    | update error => cases error with | mk path failure => cases failure <;> simp [RunError.code] at code
    | _ => simp [RunError.code] at code
  · rintro ⟨cause, rfl⟩
    rfl

/-- The code of a failed result tells whether a working directory was missing. -/
theorem RunError.exists_code_workingDirectory {α : Type} (result : Except RunError α) :
    (∃ error, result = .error error ∧ error.code = "WORKING_DIRECTORY_ERROR") ↔
      ∃ cause, result = .error (.workingDirectory cause) := by
  constructor
  · rintro ⟨error, failed, code⟩
    obtain ⟨cause, rfl⟩ := RunError.code_eq_workingDirectory.mp code
    exact ⟨cause, failed⟩
  · rintro ⟨cause, failed⟩
    exact ⟨_, failed, RunError.code_eq_workingDirectory.mpr ⟨cause, rfl⟩⟩

section Resolved

variable {environment : Environment} {text : Bytes}

theorem resolveOption_eq_error {error : RunError} :
    resolveOption environment text = .error error ↔
      environment.workingDirectory = none ∧ error = .workingDirectory .notFound := by
  rw [resolveOption, Environment.resolve]
  cases environment.workingDirectory with
  | none => simp [eq_comm]
  | some directory => simp

theorem resolveOption_seenFrom (rooted : isRooted text = true) {here there : Option Location}
    (alike : there = none ↔ here = none) :
    resolveOption (environment.seenFrom there) text = resolveOption (environment.seenFrom here) text := by
  cases here with
  | none => rw [alike.mpr rfl]
  | some here =>
    cases there with
    | none => cases alike.mp rfl
    | some there =>
      simp only [resolveOption, Environment.resolve, Environment.seenFrom]
      rw [Path.resolve_of_rooted rooted (.absolute here)]

end Resolved

section Prepared

variable {environment : Environment} {options : RunOptions}

/-- Only resolving a path text fails for want of a working directory. -/
theorem prepare_homeless : (∃ cause, prepare environment options = .error (.workingDirectory cause)) ↔
    environment.workingDirectory = none := by
  constructor
  · rintro ⟨cause, failed⟩
    rcases bind_eq_error.mp failed with unresolved | ⟨path, _, failed⟩
    · exact (resolveOption_eq_error.mp unresolved).1
    rcases bind_eq_error.mp failed with unresolved | ⟨root, _, failed⟩
    · exact (resolveOption_eq_error.mp unresolved).1
    rcases bind_eq_error.mp failed with refused | ⟨config, _, failed⟩
    · obtain ⟨_, _, other⟩ := mapError_eq_error.mp refused
      cases other
    rcases bind_eq_error.mp failed with refused | ⟨discovered, _, failed⟩
    · obtain ⟨_, _, other⟩ := mapError_eq_error.mp refused
      cases other
    · split at failed <;> cases failed
  · intro none
    have unresolved : resolveOption environment options.config =
        .error (.workingDirectory .notFound) := resolveOption_eq_error.mpr ⟨none, rfl⟩
    exact ⟨.notFound, bind_eq_error.mpr (.inl unresolved)⟩

/-- No part of a run behind its preparation resolves a path text of the options. -/
theorem runPrepared_not_homeless (tree : FileTree) (frontEnd : FrontEnd) (config : Config)
    (discovered : List Path) (output : Output) (cause : SystemError) :
    (runPrepared tree options frontEnd config discovered output).result ≠
      .error (.workingDirectory cause) := by
  intro failed
  rcases runPrepared_error failed with other | ⟨_, other⟩ | refused
  · cases other
  · cases other
  · rcases classifyProject_error config discovered options.vendor refused with
      ⟨_, other⟩ | ⟨_, other⟩ <;> cases other

theorem run_homeless (frontEnd : FrontEnd) (output : Output) :
    (∃ cause, (run environment options frontEnd output).result = .error (.workingDirectory cause)) ↔
      environment.workingDirectory = none := by
  have homeless : (∃ cause, prepare environment options = .error (.workingDirectory cause)) ↔
      environment.workingDirectory = none := prepare_homeless
  rw [← homeless, run]
  cases prepared : prepare environment options with
  | error error => simp
  | ok start =>
    obtain ⟨config, discovered⟩ := start
    constructor
    · rintro ⟨cause, failed⟩
      exact (runPrepared_not_homeless _ _ _ _ _ cause failed).elim
    · rintro ⟨cause, failed⟩
      cases failed

end Prepared

section SeenFrom

variable (environment : Environment) {options : RunOptions} {here there : Option Location}

theorem prepare_seenFrom (rooted : options.Rooted) :
    prepare (environment.seenFrom there) options = prepare (environment.seenFrom here) options ↔
      (there = none ↔ here = none) := by
  constructor
  · intro same
    have homeless (directory : Option Location) :
        (∃ cause, prepare (environment.seenFrom directory) options =
          .error (.workingDirectory cause)) ↔ directory = none := prepare_homeless
    rw [← homeless there, ← homeless here, same]
  · intro alike
    rw [prepare, prepare, resolveOption_seenFrom rooted.config alike,
      resolveOption_seenFrom rooted.source alike]
    rfl

theorem run_seenFrom (rooted : options.Rooted) (frontEnd : FrontEnd) (output : Output) :
    run (environment.seenFrom there) options frontEnd output =
        run (environment.seenFrom here) options frontEnd output ↔ (there = none ↔ here = none) := by
  constructor
  · intro same
    have homeless (directory : Option Location) :
        (∃ cause, (run (environment.seenFrom directory) options frontEnd output).result =
          .error (.workingDirectory cause)) ↔ directory = none := run_homeless frontEnd output
    rw [← homeless there, ← homeless here, same]
  · intro alike
    rw [run, run, (prepare_seenFrom environment rooted).mpr alike]
    rfl

/-- The compiler runs in the directory of the project, and is found without the working directory. -/
theorem Tsc.frontEnd_seenFrom (tsc : Tsc) :
    tsc.frontEnd (environment.seenFrom there) = tsc.frontEnd (environment.seenFrom here) :=
  rfl

end SeenFrom

/-- Of a run whose path texts start at the root the working directory changes nothing, as long as there
is one in both cases or in neither: what is prepared, answered, written and asked is the same, and so
is the tree that is left. A run fails for want of a working directory exactly when there is none,
whether or not a path text needs it. -/
theorem rootedRun_seenFrom_iff (environment : Environment) (options : RunOptions)
    (frontEnd : FrontEnd) (output : Output) :
    (options.Rooted → ∀ here there,
      (prepare (environment.seenFrom there) options = prepare (environment.seenFrom here) options ↔
        (there = none ↔ here = none)) ∧
      (run (environment.seenFrom there) options frontEnd output =
          run (environment.seenFrom here) options frontEnd output ↔ (there = none ↔ here = none)) ∧
      ∀ tsc : Tsc,
        tsc.frontEnd (environment.seenFrom there) = tsc.frontEnd (environment.seenFrom here)) ∧
    ((∃ error, prepare environment options = .error error ∧ error.code = "WORKING_DIRECTORY_ERROR") ↔
      environment.workingDirectory = none) ∧
    ((∃ error, (run environment options frontEnd output).result = .error error ∧
        error.code = "WORKING_DIRECTORY_ERROR") ↔ environment.workingDirectory = none) := by
  refine ⟨?_, ?_, ?_⟩
  · intro rooted here there
    exact ⟨prepare_seenFrom environment rooted, run_seenFrom environment rooted frontEnd output,
      fun tsc => tsc.frontEnd_seenFrom environment⟩
  · rw [RunError.exists_code_workingDirectory, prepare_homeless]
  · rw [RunError.exists_code_workingDirectory, run_homeless]

/-- The paths of the small project start at the root, so its run is the same from the root and from a
place that holds no directory; but it needs some working directory. -/
theorem rootedRun_seenFrom_smallProject :
    SmallProject.options.Rooted ∧
    (run (SmallProject.environment.seenFrom (some SmallProject.passing.names)) SmallProject.options
        SmallProject.frontEnd .unlimited =
      run (SmallProject.environment.seenFrom (some [])) SmallProject.options SmallProject.frontEnd
        .unlimited) ∧
    prepare (SmallProject.environment.seenFrom none) SmallProject.options ≠
      prepare (SmallProject.environment.seenFrom (some [])) SmallProject.options := by
  have rooted : SmallProject.options.Rooted := ⟨rfl, rfl⟩
  obtain ⟨same, _⟩ := rootedRun_seenFrom_iff SmallProject.environment SmallProject.options
    SmallProject.frontEnd .unlimited
  refine ⟨rooted, ?_, ?_⟩
  · exact (same rooted (some []) (some SmallProject.passing.names)).2.1.mpr (by simp)
  · intro equal
    have alike := (same rooted (some []) none).1.mp equal
    simp at alike

/-- Once the working directory is removed the small project is not prepared, though both of its paths
start at the root. -/
theorem homeless_smallProject :
    ¬ ∀ (environment : Environment) (options : RunOptions), options.Rooted → ∀ here there,
      prepare (environment.seenFrom there) options = prepare (environment.seenFrom here) options := by
  intro alike
  have same := alike SmallProject.environment SmallProject.options ⟨rfl, rfl⟩ (some []) none
  have prepared : prepare (SmallProject.environment.seenFrom (some [])) SmallProject.options =
      .ok (SmallProject.loaded, SmallProject.discovered) := SmallProject.prepares
  have homeless : ∃ cause, prepare (SmallProject.environment.seenFrom none) SmallProject.options =
      .error (.workingDirectory cause) := prepare_homeless.mpr rfl
  obtain ⟨cause, failed⟩ := homeless
  rw [failed, prepared] at same
  cases same

end StrictFiles
