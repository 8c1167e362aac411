import Mathlib
import StrictFiles.Check.Run
import StrictFiles.Proofs.FallibleSteps
import StrictFiles.Proofs.LoadedConfig

/-!
What is known of a run once it is prepared: the configuration was loaded, files were found, and all
paths are absolute.
-/

namespace StrictFiles

theorem isAbsolute_of_resolveOption {environment : Environment} {text : Bytes} {path : Path}
    (resolved : resolveOption environment text = .ok path) : path.isAbsolute := by
  rw [resolveOption, Environment.resolve] at resolved
  cases place : environment.workingDirectory with
  | none =>
    rw [place] at resolved
    cases resolved
  | some directory =>
    rw [place] at resolved
    cases resolved
    exact (Path.isAbsolute_resolve text _).trans (Bool.or_true _)

/-- What is found are sorted paths, each at the end of a way down from the root. -/
theorem exists_ways_of_discover {tree : FileTree} {root : Path} {extensions : List String}
    {discovered : List Path} (found : discover tree root extensions = .ok discovered) :
    ∃ ways : List (List Name),
      discovered = Path.sort (distinct (ways.map fun way => way.foldl Path.child root)) := by
  rw [discover] at found
  split at found
  · cases found
  split at found
  · cases found
  split at found
  · cases found
  cases found
  exact ⟨_, rfl⟩

theorem discover_absolute {tree : FileTree} {root : Path} {extensions : List String}
    {discovered : List Path} (absolute : root.isAbsolute)
    (found : discover tree root extensions = .ok discovered) :
    ∀ file ∈ discovered, file.isAbsolute := by
  intro file member
  obtain ⟨ways, rfl⟩ := exists_ways_of_discover found
  rw [Path.sort, List.mem_mergeSort, mem_distinct, List.mem_map] at member
  obtain ⟨way, _, rfl⟩ := member
  exact (Path.isAbsolute_foldl_child root way).trans absolute

/-- What preparing a run comes to: the paths are resolved, the configuration is loaded, and some files
are discovered. -/
theorem prepare_eq_ok {environment : Environment} {options : RunOptions} {config : Config}
    {discovered : List Path} :
    prepare environment options = .ok (config, discovered) ↔
      ∃ path root, resolveOption environment options.config = .ok path ∧
        resolveOption environment options.source = .ok root ∧
        Config.load environment.tree path = .ok config ∧
        discover environment.tree root options.extensions = .ok discovered ∧ discovered ≠ [] := by
  rw [prepare]
  simp only [bind_eq_ok, mapError_eq_ok]
  constructor
  · rintro ⟨path, atPath, root, atRoot, loaded, load, files, found, passed⟩
    obtain ⟨nonempty, same⟩ := guard_eq_ok.mp passed
    cases same
    exact ⟨path, root, atPath, atRoot, load, found, by simpa using nonempty⟩
  · rintro ⟨path, root, atPath, atRoot, load, found, nonempty⟩
    exact ⟨path, atPath, root, atRoot, config, load, discovered, found,
      guard_eq_ok.mpr ⟨by simpa using nonempty, rfl⟩⟩

theorem run_of_prepared {environment : Environment} {options : RunOptions} {config : Config}
    {discovered : List Path} (prepared : prepare environment options = .ok (config, discovered))
    (frontEnd : FrontEnd) (output : Output) :
    run environment options frontEnd output =
      runPrepared environment.tree options frontEnd config discovered output := by
  rw [run, prepared]

theorem discovered_absolute {environment : Environment} {options : RunOptions} {config : Config}
    {discovered : List Path} (prepared : prepare environment options = .ok (config, discovered)) :
    ∀ file ∈ discovered, file.isAbsolute := by
  obtain ⟨_, root, _, resolved, _, found, _⟩ := prepare_eq_ok.mp prepared
  exact discover_absolute (isAbsolute_of_resolveOption resolved) found

namespace SmallProject

/-- The configuration `/c`. -/
def config : Path := .absolute [⟨[99], by decide⟩]

/-- The source file `/a.ts`, which is declared. -/
def declared : Path := .absolute [⟨[97, 46, 116, 115], by decide⟩]

/-- The source file `/b.ts`, which passes. -/
def passing : Path := .absolute [⟨[98, 46, 116, 115], by decide⟩]

/-- The source file `/d.ts`, which fails. -/
def failing : Path := .absolute [⟨[100, 46, 116, 115], by decide⟩]

/-- The configuration beside three empty source files. -/
def tree : FileTree :=
  ⟨[(config.names, .file ⟨0o600, Utf8.ofString "\x7bfiles: ['./a.ts'],\x7d", none⟩),
    (declared.names, .file ⟨0o644, [], none⟩), (passing.names, .file ⟨0o644, [], none⟩),
    (failing.names, .file ⟨0o644, [], none⟩)]⟩

/-- What the configuration reads as. -/
def loaded : Config := .ofMembers config [(Config.filesKey, .array [.string "./a.ts"])] ["./a.ts"]

def discovered : List Path := [declared, passing, failing]

def environment : Environment := ⟨tree, some [], []⟩

def options : RunOptions where
  config := config.toBytes
  source := Path.root.toBytes
  update := true
  vendor := .default
  extensions := ["ts"]
  report := ⟨false, false, false⟩

/-- Diagnostics on the passing file are without a code. -/
def diagnostics : List Diagnostic := [⟨failing, 2322, "", 0, 1, 1⟩, ⟨passing, 0, "", 0, 1, 1⟩]

def frontEnd : FrontEnd := ⟨fun _ _ => .ok ⟨.ok diagnostics⟩⟩

set_option maxRecDepth 20000 in
theorem loads : Config.load tree config = .ok loaded := by
  have read : Config.readDocument tree config = .ok loaded.document := by
    cbv
  exact Config.load_eq_ok.mpr ⟨_, ["./a.ts"], read, rfl, rfl⟩

theorem prepares : prepare environment options = .ok (loaded, discovered) := by
  have atConfig : resolveOption environment options.config = .ok config := by
    cbv
  have atSource : resolveOption environment options.source = .ok .root := by
    cbv
  have found : discover tree .root options.extensions = .ok discovered := by
    cbv
  exact prepare_eq_ok.mpr ⟨config, .root, atConfig, atSource, loads, found, List.cons_ne_nil _ _⟩

end SmallProject

end StrictFiles
