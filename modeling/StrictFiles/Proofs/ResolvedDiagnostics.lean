import Mathlib
import StrictFiles.Compiler.Tsc
import StrictFiles.Proofs.FallibleSteps
import StrictFiles.Proofs.Utf8RoundTrip

/-!
What the compiler's diagnostics say, read without remembering any file. The texts that are remembered
are those that the files hold, so every diagnostic is what it would be if its file were read for it alone.
-/

namespace StrictFiles

/-- The offset of a line and column in the file a path leads to; zero when that holds no text. -/
def FileTree.offsetIn (tree : FileTree) (file : Path) (line column : Nat) : Nat :=
  match tree.readText file with
  | .ok text => Offset.of text line column
  | .error _ => 0

/-- What is logged when the text of a file is asked for. -/
def FileTree.unreadWarnings (tree : FileTree) (file : Path) : List String :=
  match tree.readText file with
  | .ok _ => []
  | .error cause =>
    let file := file.display
    let cause := cause.message
    [s!"unable to read {file} for diagnostic offsets: {cause}"]

namespace SourceCache

variable {cache : SourceCache} {tree : FileTree}

/-- Every remembered text is what the file holds. -/
def IsFaithful (cache : SourceCache) (tree : FileTree) : Prop :=
  ∀ file text, cache.lookup file = some text → tree.readText file = .ok text

theorem isFaithful_nil : IsFaithful [] tree :=
  nofun

/-- One look at a file answers what the file says, and remembers nothing else. -/
theorem IsFaithful.offset (faithful : cache.IsFaithful tree) (file : Path) (line column : Nat) :
    (cache.offset tree file line column).1.IsFaithful tree ∧
      (cache.offset tree file line column).2 =
        (tree.unreadWarnings file, tree.offsetIn file line column) := by
  rw [SourceCache.offset, FileTree.unreadWarnings, FileTree.offsetIn]
  cases known : cache.lookup file with
  | some text =>
    rw [faithful file text known]
    exact ⟨faithful, rfl⟩
  | none =>
    cases read : tree.readText file with
    | error cause =>
      -- that a file could not be read is not remembered
      exact ⟨faithful, rfl⟩
    | ok text =>
      refine ⟨?_, rfl⟩
      intro other found
      rw [List.lookup_cons]
      cases same : other == file with
      | true =>
        rintro ⟨⟩
        rw [eq_of_beq same, read]
      | false => exact faithful other found

/-- What is remembered after more looks at files, one after another. -/
def after (tree : FileTree) (cache : SourceCache) (looks : List (Path × Nat × Nat)) : SourceCache :=
  looks.foldl (fun cache look => (cache.offset tree look.1 look.2.1 look.2.2).1) cache

theorem IsFaithful.after (faithful : cache.IsFaithful tree) (looks : List (Path × Nat × Nat)) :
    (cache.after tree looks).IsFaithful tree := by
  induction looks generalizing cache with
  | nil => exact faithful
  | cons look looks ih => exact ih (faithful.offset look.1 look.2.1 look.2.2).1

end SourceCache

namespace Tsc

/-- A reported diagnostic with the file it means, which is looked at for it alone. -/
def resolved (tree : FileTree) (directory : Path) (reported : CompilerOutput.Reported) : Diagnostic where
  file := Path.resolve (Utf8.encode reported.file) directory
  code := reported.code
  message := String.ofList reported.message
  offset := tree.offsetIn (Path.resolve (Utf8.encode reported.file) directory) reported.line
    reported.column
  line := reported.line
  column := reported.column

theorem resolveAll_eq {tree : FileTree} {cache : SourceCache} (faithful : cache.IsFaithful tree)
    (directory : Path) (reported : List CompilerOutput.Reported) :
    resolveAll tree directory cache reported =
      (reported.flatMap fun one =>
          tree.unreadWarnings (Path.resolve (Utf8.encode one.file) directory),
        reported.map (resolved tree directory)) := by
  induction reported generalizing cache with
  | nil => rfl
  | cons one rest ih =>
    obtain ⟨kept, answer⟩ :=
      faithful.offset (Path.resolve (Utf8.encode one.file) directory) one.line one.column
    simp only [resolveAll, answer, ih kept]
    rfl

/-- How a compiler ends that did its work. -/
def workDone : List ExitStatus := [.exited 0, .exited 1, .exited 2]

theorem isSuccess_iff {status : ExitStatus} : isSuccess status = true ↔ status ∈ workDone := by
  cases status <;> simp [isSuccess, workDone, or_assoc]

section Completed

variable {tree : FileTree} {unit : TscUnit} {execution : Execution}

theorem readExecution_failed (failed : execution.status ∉ workDone) :
    (readExecution tree unit execution).2 =
      .error (.failed (unit.tsc.commandText unit.path) execution.status execution.stderr) := by
  have status : isSuccess execution.status = false := by
    rwa [← Bool.not_eq_true, isSuccess_iff]
  simp only [readExecution, status, Bool.not_false, if_true]

theorem readExecution_unread (done : execution.status ∈ workDone) {fault : Utf8.Fault}
    (noText : Utf8.decode execution.stdout = .error fault) :
    (readExecution tree unit execution).2 = .error (.outputNotText fault) := by
  simp only [readExecution, isSuccess_iff.mpr done, noText, Bool.not_true, Bool.false_eq_true,
    if_false]

theorem readExecution_answered (done : execution.status ∈ workDone) {text : List Char}
    (printed : execution.stdout = Utf8.encode text) :
    (readExecution tree unit execution).2 =
      .ok ((CompilerOutput.read text).reported.map (resolved tree unit.tsc.directory)) := by
  have decoded : Utf8.decode execution.stdout = .ok text := by
    rw [printed, Utf8.decode_encode]
  simp only [readExecution, isSuccess_iff.mpr done, decoded, Bool.not_true, Bool.false_eq_true,
    if_false, resolveAll_eq SourceCache.isFaithful_nil]

end Completed

theorem diagnostics_completed {environment : Environment} {unit : TscUnit} {directory : Location}
    {program : Bytes} {execution : Execution}
    (located : environment.tree.locate unit.tsc.directory = .ok directory)
    (completed : environment.run directory unit.tsc.executable = .ok (program, execution)) :
    (diagnostics environment unit).2 = readExecution environment.tree unit execution := by
  simp only [diagnostics, located, completed, bind, Except.bind, pure, Except.pure]

/-- A compiler that has run is answered for by how it ended and what it printed. It is an error when it
ended in a way that no work ends, and after that when it printed no text; else there is a diagnostic for
each one that it reported, in order, with its file resolved and looked at as if nothing had been looked at
before. Whatever was looked at before, and however often, makes no difference. -/
theorem diagnostics_read_alone {environment : Environment} {unit : TscUnit} {directory : Location}
    {program : Bytes} {execution : Execution}
    (located : environment.tree.locate unit.tsc.directory = .ok directory)
    (completed : environment.run directory unit.tsc.executable = .ok (program, execution)) :
    let answer := (diagnostics environment unit).2.2
    let isText := ∃ text, execution.stdout = Utf8.encode text
    ((∃ error, answer = .error error) ↔ execution.status ∉ workDone ∨ ¬ isText) ∧
    (execution.status ∉ workDone → answer =
      .error (.failed (unit.tsc.commandText unit.path) execution.status execution.stderr)) ∧
    (execution.status ∈ workDone → ¬ isText → ∃ fault, answer = .error (.outputNotText fault)) ∧
    (execution.status ∈ workDone → ∀ text, execution.stdout = Utf8.encode text → answer =
      .ok ((CompilerOutput.read text).reported.map
        (resolved environment.tree unit.tsc.directory))) ∧
    ∀ looks reported,
      (resolveAll environment.tree unit.tsc.directory (.after environment.tree [] looks)
        reported).2 = reported.map (resolved environment.tree unit.tsc.directory) := by
  intro answer isText
  have same : answer = (readExecution environment.tree unit execution).2 :=
    congrArg Prod.snd (diagnostics_completed located completed)
  have unread (done : execution.status ∈ workDone) (noText : ¬ isText) :
      ∃ fault, answer = .error (.outputNotText fault) := by
    cases decoded : Utf8.decode execution.stdout with
    | error fault => exact ⟨fault, same.trans (readExecution_unread done decoded)⟩
    | ok text => exact (noText ⟨text, (Utf8.encode_of_charsOf decoded).symm⟩).elim
  refine ⟨⟨?_, ?_⟩, ?_, unread, ?_, ?_⟩
  · rintro ⟨error, failed⟩
    rw [← Classical.not_and_iff_not_or_not]
    rintro ⟨done, text, printed⟩
    have answered := same.trans (readExecution_answered done printed)
    rw [failed] at answered
    cases answered
  · rintro (failed | noText)
    · exact ⟨_, same.trans (readExecution_failed failed)⟩
    · by_cases done : execution.status ∈ workDone
      · obtain ⟨fault, failed⟩ := unread done noText
        exact ⟨_, failed⟩
      · exact ⟨_, same.trans (readExecution_failed done)⟩
  · exact fun failed => same.trans (readExecution_failed failed)
  · exact fun done text printed => same.trans (readExecution_answered done printed)
  · intro looks reported
    rw [resolveAll_eq (SourceCache.isFaithful_nil.after looks)]

namespace OneFile

def printed : List Char :=
  "i(1,2): error TS1: x\nj(1,1): error TS2: y\n./k/../i(2,2): error TS3: z".toList

def execution : Execution := ⟨Utf8.encode printed, [], .exited 2⟩

def known : Name := ⟨[105], by decide⟩

def missing : Name := ⟨[106], by decide⟩

/-- A compiler `/k`, and the file `/i` with a character of two bytes on its first line. -/
def environment : Environment where
  tree := ⟨[([⟨[107], by decide⟩], .file ⟨0o755, [], some execution⟩),
    ([known], .file ⟨0o644, Utf8.ofString "é\nx", none⟩)]⟩
  workingDirectory := none
  searchPath := []

def unit : TscUnit := ⟨⟨Utf8.ofString "/k", .root, none⟩, [], .root, []⟩

theorem locates : environment.tree.locate unit.tsc.directory = .ok [] := by
  cbv

theorem runs : environment.run [] unit.tsc.executable = .ok (Utf8.ofString "/k", execution) := by
  cbv

end OneFile

/-- A file reported under two spellings, before and after one that is not there. -/
theorem diagnostics_read_alone_oneFile :
    (diagnostics OneFile.environment OneFile.unit).2.2 =
      .ok [⟨.absolute [OneFile.known], 1, "x", 2, 1, 2⟩,
        ⟨.absolute [OneFile.missing], 2, "y", 0, 1, 1⟩, ⟨.absolute [OneFile.known], 3, "z", 4, 2, 2⟩] := by
  obtain ⟨_, _, _, answered, _⟩ := diagnostics_read_alone OneFile.locates OneFile.runs
  have read : (CompilerOutput.read OneFile.printed).reported = [⟨['i'], 1, 2, 1, ['x']⟩,
      ⟨['j'], 1, 1, 2, ['y']⟩, ⟨"./k/../i".toList, 2, 2, 3, ['z']⟩] := by
    decide +kernel
  rw [answered (by decide) OneFile.printed rfl, read]
  cbv

end Tsc

end StrictFiles
