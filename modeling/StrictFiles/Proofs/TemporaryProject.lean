import StrictFiles.Check.RunError
import StrictFiles.Compiler.Tsc
import StrictFiles.Proofs.FallibleSteps
import StrictFiles.Proofs.ReplacedContent

/-!
The temporary project of a compilation. While the compiler runs it is a file beside the configuration
that was not there before; however the compilation ends, it is gone again and the tree is as it was.
-/

namespace StrictFiles

namespace FileTree

/-- A new file is in the directory that was asked for. -/
theorem createTemporary_place {tree staged : FileTree} {directory place : Location}
    {start ending : String} {bytes : Bytes}
    (created : tree.createTemporary directory start ending bytes = .ok (staged, place)) :
    tree.isDirectoryAt directory = true ∧ ∃ name, place = directory ++ [name] := by
  rw [createTemporary] at created
  split at created
  · cases created
  · rename_i there
    split at created
    · rename_i name _
      cases created
      exact ⟨by simpa using there, name, rfl⟩
    · cases created

end FileTree

/-- The project of a unit is a new file in the directory that the compiler runs in, and holds the text
of the unit. Nothing else is different from `before`, which is what is left without it. -/
structure TscUnit.Staged (unit : TscUnit) (before written : FileTree) : Prop where
  beside : ∃ directory name, before.locate unit.tsc.directory = .ok directory ∧
    before.isDirectoryAt directory = true ∧ unit.place = directory ++ [name] ∧
    unit.path = unit.tsc.directory.child name
  fresh : before.entry? unit.place = none
  content : written.entry? unit.place = some (.file ⟨0o600, Utf8.encode unit.text, none⟩)
  elsewhere : ∀ place, place ≠ unit.place → written.entry? place = before.entry? place
  dropped : written.erase unit.place = before

namespace Tsc

section Built

variable {tsc : Tsc} {tree : FileTree} {files : List Path} {options : Json}

theorem build_ok {written : FileTree} {unit : TscUnit}
    (built : tsc.build tree files options = .ok (written, unit)) :
    unit.tsc = tsc ∧ unit.Staged tree written := by
  rw [build] at built
  split at built
  · cases built
  rename_i project spelt
  dsimp only at built
  split at built
  · cases built
  rename_i staged place created
  cases built
  obtain ⟨directory, located, created⟩ := bind_eq_ok.mp created
  obtain ⟨there, name, rfl⟩ := FileTree.createTemporary_place created
  obtain ⟨below, vacant, rfl⟩ := FileTree.createTemporary_ok created
  refine ⟨rfl, ⟨directory, name, located, there, rfl, by simp⟩, ?_, ?_, ?_, ?_⟩
  · rw [FileTree.entry?, if_neg below, vacant.lookup]
  · exact FileTree.entry?_concat_self below vacant _
  · intro other elsewhere
    exact FileTree.entry?_concat_of_ne elsewhere _
  · exact FileTree.erase_concat vacant _

/-- A unit is not built when a file to check has a path that is no text, or when its project cannot be
written. -/
theorem build_error {error : CompilerError}
    (failed : tsc.build tree files options = .error error) :
    temporaryProject? tsc.inherited options files = none ∧ error = .pathNotText ∨
      ∃ path cause, error = .projectNotWritten path cause := by
  rw [build] at failed
  split at failed
  · rename_i unspelt
    cases failed
    exact .inl ⟨unspelt, rfl⟩
  · dsimp only at failed
    split at failed
    · cases failed
      exact .inr ⟨_, _, rfl⟩
    · cases failed

end Built

section Compiled

variable (environment : Environment) (tsc : Tsc) (files : List Path) (options : Json)

/-- The unit is built and its project is in the tree. -/
structure Builds (written : FileTree) (unit : TscUnit) : Prop where
  built : tsc.build environment.tree files options = .ok (written, unit)
  staged : unit.Staged environment.tree written

/-- The compiler is run on the project in the tree. -/
structure Runs (written : FileTree) (unit : TscUnit) (invocation : Invocation)
    (execution : Execution) : Prop extends Builds environment tsc files options written unit where
  located : written.locate tsc.directory = .ok invocation.directory
  started : Environment.run { environment with tree := written } invocation.directory tsc.executable =
    .ok (invocation.program, execution)
  asked : invocation.arguments = arguments unit.path ∧ invocation.project = unit.text

/-- The ways a compilation ends: before the project is written, when the compiler does not start, and
when it has run and failed, has printed something that is no text, or has answered. The tree that is
left is always the one from before. -/
inductive Ends : Compilation → Prop
  | unspelt (noText : temporaryProject? tsc.inherited options files = none) :
    Ends ⟨environment.tree, none, [], .error .pathNotText⟩
  | unwritten {path : Bytes} {cause : SystemError}
    (failed : tsc.build environment.tree files options = .error (.projectNotWritten path cause)) :
    Ends ⟨environment.tree, none, [], .error (.projectNotWritten path cause)⟩
  | unstarted {written : FileTree} {unit : TscUnit} {cause : SystemError}
    (builds : Builds environment tsc files options written unit) :
    Ends ⟨environment.tree, none, [], .error (.notStarted cause)⟩
  | failed {written : FileTree} {unit : TscUnit} {invocation : Invocation} {execution : Execution}
    (runs : Runs environment tsc files options written unit invocation execution)
    (status : isSuccess execution.status = false) :
    Ends ⟨environment.tree, some invocation, [],
      .error (.failed (tsc.commandText unit.path) execution.status execution.stderr)⟩
  | unread {written : FileTree} {unit : TscUnit} {invocation : Invocation} {execution : Execution}
    {fault : Utf8.Fault}
    (runs : Runs environment tsc files options written unit invocation execution)
    (status : isSuccess execution.status = true)
    (noText : Utf8.decode execution.stdout = .error fault) :
    Ends ⟨environment.tree, some invocation, [], .error (.outputNotText fault)⟩
  | answered {written : FileTree} {unit : TscUnit} {invocation : Invocation} {execution : Execution}
    {text : List Char}
    (runs : Runs environment tsc files options written unit invocation execution)
    (status : isSuccess execution.status = true) (read : Utf8.decode execution.stdout = .ok text) :
    Ends ⟨environment.tree, some invocation, (CompilerOutput.read text).ignored.map ignoredWarning ++
        (resolveAll written tsc.directory [] (CompilerOutput.read text).reported).1,
      .ok (resolveAll written tsc.directory [] (CompilerOutput.read text).reported).2⟩

theorem compile_ends : Ends environment tsc files options (tsc.compile environment files options) := by
  rw [compile]
  cases built : tsc.build environment.tree files options with
  | error error =>
    rcases build_error built with ⟨unspelt, rfl⟩ | ⟨path, cause, rfl⟩
    · exact .unspelt unspelt
    · exact .unwritten built
  | ok start =>
    obtain ⟨written, unit⟩ := start
    obtain ⟨same, staged⟩ := build_ok built
    have builds : Builds environment tsc files options written unit := ⟨built, staged⟩
    dsimp only
    rw [staged.dropped, diagnostics, same]
    dsimp only
    split
    · exact .unstarted builds
    · rename_i directory _ _ started
      obtain ⟨_, located, running⟩ := bind_eq_ok.mp started
      obtain ⟨⟨program, execution⟩, ran, answer⟩ := bind_eq_ok.mp running
      cases answer
      have runs : Runs environment tsc files options written unit
          ⟨directory, program, arguments unit.path, unit.text⟩ execution :=
        ⟨builds, located, ran, rfl, rfl⟩
      rw [readExecution, same]
      cases status : isSuccess execution.status with
      | false => exact .failed runs status
      | true =>
        cases read : Utf8.decode execution.stdout with
        | error fault => exact .unread runs status read
        | ok text => exact .answered runs status read

theorem Ends.tree {environment : Environment} {tsc : Tsc} {files : List Path} {options : Json}
    {compilation : Compilation} (ends : Ends environment tsc files options compilation) :
    compilation.tree = environment.tree := by
  cases ends <;> rfl

end Compiled

/-- How a compiler is chosen: named as it is, named on a command line, or looked for. -/
inductive Choice
  | named (executable : Bytes)
  | onCommandLine (executable : Bytes)
  | located
  deriving DecidableEq

/-- The compiler that is chosen for a directory. -/
def choose (environment : Environment) (directory : Path) : Choice → Except RunError Tsc
  | .named executable => .ok ⟨executable, directory, none⟩
  | .onCommandLine executable =>
    (ofCommandLine environment executable directory).mapError .workingDirectory
  | .located => (locate environment directory).mapError .compiler

/-- A whole use of the compiler: it is chosen, builds a unit, is asked for diagnostics, and the unit is
dropped. Answers the tree that is left. -/
def use (environment : Environment) (choice : Choice) (directory : Path) (inherited : Option Json)
    (files : List Path) (options : Json) : FileTree × Except RunError (List Diagnostic) :=
  match choose environment directory choice with
  | .error error => (environment.tree, .error error)
  | .ok tsc =>
    let compilation := compile { tsc with inherited } environment files options
    (compilation.tree, compilation.result.mapError .compiler)

/-- However a compiler is chosen and whatever it does, its use leaves the tree as it was: no compiler is
found, or the compilation comes to one of its ends. -/
theorem use_leaves_tree (environment : Environment) (choice : Choice) (directory : Path)
    (inherited : Option Json) (files : List Path) (options : Json) :
    (use environment choice directory inherited files options).1 = environment.tree ∧
      ((∃ error, choose environment directory choice = .error error ∧
          (use environment choice directory inherited files options).2 = .error error) ∨
        ∃ tsc compilation, choose environment directory choice = .ok tsc ∧
          Ends environment { tsc with inherited } files options compilation ∧
          (use environment choice directory inherited files options).2 =
            compilation.result.mapError .compiler) := by
  rw [use]
  cases chosen : choose environment directory choice with
  | error error => exact ⟨rfl, .inl ⟨error, rfl, rfl⟩⟩
  | ok tsc =>
    have ends := compile_ends environment { tsc with inherited } files options
    exact ⟨ends.tree, .inr ⟨tsc, _, rfl, ends, rfl⟩⟩

end Tsc

end StrictFiles
