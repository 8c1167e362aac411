import StrictFiles.Check.Run
import StrictFiles.Compiler.Tsc
import StrictFiles.Proofs.DirectoriesAbove
import StrictFiles.Proofs.SourceFiles

/-!
Looking upward for a file. A way that ends at a file leads through directories alone, so a start that is
no directory has nothing below it, and passing over it misses nothing: what is found is what the deepest
directory at or above the start has.
-/

namespace StrictFiles

namespace Path

section Spelling

theorem step_bytes (name : Name) : Step.ofBytes? name.bytes = some (.name name) := by
  obtain ⟨_, noPoint, noClimb, _⟩ := name.plain
  rw [Step.ofBytes?, if_neg noPoint, if_neg noClimb, name.ofBytes?_bytes]
  rfl

theorem steps_joinSlashes (names : List Name) :
    (splitSlashes (joinSlashes (names.map Name.bytes))).filterMap Step.ofBytes? = names.map .name :=
  read_joinSlashes rfl (fun name => name.plain.2.2.2) step_bytes names

/-- No path but the root is spelled with a slash at its end. -/
theorem getLast?_toBytes {names : List Name} (some : names ≠ []) :
    (Path.absolute names).toBytes.getLast? ≠ .some slash := by
  obtain ⟨front, last, rfl⟩ := (List.eq_nil_or_concat' names).resolve_left some
  obtain ⟨above, ends⟩ : last.bytes <:+ (Path.absolute (front ++ [last])).toBytes := by
    rw [toBytes, List.map_append]
    rcases joinSlashes_concat (front.map Name.bytes) last.bytes with same | ⟨above, same⟩
    · exact ⟨[slash], by rw [List.map_singleton, same, List.singleton_append]⟩
    · exact ⟨slash :: above ++ [slash], by rw [List.map_singleton, same]; simp⟩
  obtain ⟨nonempty, _, _, plain⟩ := last.plain
  rw [← ends, List.getLast?_append, List.getLast?_eq_some_getLast nonempty, Option.some_or]
  intro slashLast
  have member := List.getLast_mem nonempty
  rw [Option.some.inj slashLast] at member
  exact plain member

/-- The steps of a path are its names. Only the root asks for a directory besides. -/
theorem steps_toBytes {names : List Name} (some : names ≠ []) :
    steps (Path.absolute names).toBytes = names.map .name := by
  have rooted : splitSlashes (Path.absolute names).toBytes =
      [] :: splitSlashes (joinSlashes (names.map Name.bytes)) := rfl
  rw [steps, if_neg (getLast?_toBytes some), List.append_nil, rooted]
  exact steps_joinSlashes names

end Spelling

end Path

namespace FileTree

section Walks

variable {tree : FileTree}

theorem locate_eq_ok {names : List Name} {place : Location} :
    tree.locate (.absolute names) = .ok place ↔
      (0 ∉ (Path.absolute names).toBytes ∧
        (Path.absolute names).toBytes.length ≤ greatestTextLength) ∧
      tree.walk true greatestLinkCount [] (steps (Path.absolute names).toBytes) =
        .ok (.occupied place) := by
  have written : (Path.absolute names).toBytes ≠ [] := List.cons_ne_nil _ _
  unfold locate locateFrom follow
  rw [if_neg written, ite_self]
  by_cases zero : 0 ∈ (Path.absolute names).toBytes
  · rw [if_pos zero]
    exact iff_of_false nofun fun located => located.1.1 zero
  by_cases long : greatestTextLength < (Path.absolute names).toBytes.length
  · rw [if_neg zero, if_pos long]
    exact iff_of_false nofun fun located => by omega
  rw [if_neg zero, if_neg long, and_iff_right ⟨zero, by omega⟩]
  cases walked : tree.walk true greatestLinkCount [] (steps (Path.absolute names).toBytes) with
  | error cause => exact iff_of_false nofun nofun
  | ok spot =>
    cases spot with
    | vacant directory name => exact iff_of_false nofun nofun
    | occupied found =>
      show Except.ok found = Except.ok place ↔
        Except.ok (Spot.occupied found) = Except.ok (Spot.occupied place)
      rw [Except.ok.injEq, Except.ok.injEq, Spot.occupied.injEq]

/-- A step is taken from a directory only. -/
theorem isDirectoryAt_of_walk_cons {followLast : Bool} {links : Nat} {place : Location}
    {step : Step} {rest : List Step} {spot : Spot}
    (walked : tree.walk followLast links place (step :: rest) = .ok spot) :
    tree.isDirectoryAt place = true := by
  by_contra noDirectory
  cases step with
  | here =>
    rw [walk, if_neg noDirectory] at walked
    cases walked
  | up =>
    rw [walk, if_neg noDirectory] at walked
    cases walked
  | name name =>
    rw [walk, if_pos (by simpa using noDirectory)] at walked
    cases walked

/-- A walk that goes on has come to a directory with its first steps. -/
theorem walk_of_append {followLast : Bool} {links : Nat} {place : Location} {first later : List Step}
    {spot : Spot} (follow : followLast = true) (goesOn : later ≠ [])
    (walked : tree.walk followLast links place (first ++ later) = .ok spot) :
    ∃ reached, tree.walk followLast links place first = .ok (.occupied reached) ∧
      tree.isDirectoryAt reached = true := by
  fun_induction FileTree.walk tree followLast links place first with
  | case1 =>
    obtain ⟨step, rest, rfl⟩ := List.exists_cons_of_ne_nil goesOn
    exact ⟨_, rfl, isDirectoryAt_of_walk_cons walked⟩
  | case2 links place rest directory ih =>
    rw [List.cons_append, walk, if_pos directory] at walked
    exact ih walked
  | case3 links place rest noDirectory =>
    exact (noDirectory (isDirectoryAt_of_walk_cons walked)).elim
  | case4 links place rest directory ih =>
    rw [List.cons_append, walk, if_pos directory] at walked
    exact ih walked
  | case5 links place rest noDirectory =>
    exact (noDirectory (isDirectoryAt_of_walk_cons walked)).elim
  | case6 links place name rest noDirectory =>
    simp [isDirectoryAt_of_walk_cons walked] at noDirectory
  | case7 links place name rest directory long =>
    rw [List.cons_append, walk, if_neg directory, if_pos long] at walked
    cases walked
  | case8 links place name rest directory short found last =>
    -- A missing entry ends the walk, and more steps were to come.
    rw [List.cons_append, walk, if_neg directory, if_neg short, found] at walked
    simp [goesOn] at walked
  | case9 links place name rest directory short found last =>
    rw [List.cons_append, walk, if_neg directory, if_neg short, found] at walked
    simp [goesOn] at walked
  | case10 links place name rest directory short target found stop =>
    -- The walk stops at a link only when the last one is not followed.
    rw [follow] at stop
    simp at stop
  | case11 place name rest directory short target found follows =>
    rw [List.cons_append, walk, if_neg directory, if_neg short, found] at walked
    simp [follow] at walked
  | case12 place name rest directory short target found follows links ih =>
    have all : ¬((rest ++ later).isEmpty && !followLast) = true := by
      simp [follow]
    rw [List.cons_append, walk, if_neg directory, if_neg short, found] at walked
    simp only [if_neg all, ← List.append_assoc] at walked
    exact ih walked
  | case13 links place name rest directory short entry noLink found ih =>
    rw [List.cons_append, walk, if_neg directory, if_neg short, found] at walked
    cases entry with
    | link target => exact (noLink target rfl).elim
    | directory mode => exact ih walked
    | file file => exact ih walked

theorem isFile_iff {path : Path} :
    tree.isFile path = true ↔
      ∃ place file, tree.locate path = .ok place ∧ tree.entry? place = some (.file file) := by
  have opened : tree.isFile path = true ↔ ∃ file, tree.status path = .ok (.file file) := by
    rw [isFile]
    split <;> simp_all
  rw [opened, exists_comm]
  simp only [status_eq_ok]

theorem isDirectory_root (tree : FileTree) : tree.isDirectory (.absolute []) = true := by
  have root : tree.isDirectoryAt [] = true := rfl
  have walked : tree.walk true greatestLinkCount [] [.here] = .ok (.occupied []) := by
    rw [walk, if_pos root, walk]
  exact isDirectory_iff.mpr ⟨[], locate_eq_ok.mpr ⟨by decide, walked⟩, root⟩

/-- A way that ends at a file leads through directories alone. -/
theorem isDirectory_of_isFile_below {names target : List Name} (way : target ≠ [])
    (file : tree.isFile ((Path.absolute names).below target) = true) :
    tree.isDirectory (.absolute names) = true := by
  by_cases root : names = []
  · rw [root]
    exact isDirectory_root tree
  · rw [Path.below_absolute] at file
    obtain ⟨place, _, located, _⟩ := isFile_iff.mp file
    obtain ⟨⟨noZero, short⟩, walked⟩ := locate_eq_ok.mp located
    have spelt := Path.toBytes_prefix names target
    have more : target.map Step.name ≠ [] := by simpa using way
    rw [Path.steps_toBytes (by simp [root]), List.map_append] at walked
    obtain ⟨reached, there, directory⟩ := walk_of_append rfl more walked
    rw [← Path.steps_toBytes root] at there
    have readable : 0 ∉ (Path.absolute names).toBytes ∧
        (Path.absolute names).toBytes.length ≤ greatestTextLength :=
      ⟨fun zero => noZero (spelt.subset zero), spelt.length_le.trans short⟩
    exact isDirectory_iff.mpr ⟨reached, locate_eq_ok.mpr ⟨readable, there⟩, directory⟩

end Walks

/-- The directory whose file a search from `start` is to find: of those at or above `start` that have
one where `target` leads, the deepest. -/
structure IsNearest (tree : FileTree) (start : Path) (target : List Name) (directory : Path) :
    Prop where
  above : directory.IsAtOrAbove start
  file : tree.isFile (directory.below target) = true
  nearest : ∀ other : Path, other.IsAtOrAbove start → tree.isFile (other.below target) = true →
    other.depth ≤ directory.depth

section Search

variable {tree : FileTree} {names target : List Name}

/-- A start that is no directory may be passed over: it has no file below it. -/
theorem findUpward?_eq (way : target ≠ []) :
    tree.findUpward? (.absolute names) target =
      ((Path.absolute names :: (Path.absolute names).ancestors).find? fun directory =>
        tree.isFile (directory.below target)).map fun directory => directory.below target := by
  rw [findUpward?, List.find?_map]
  by_cases directory : tree.isDirectory (.absolute names) = true
  · rw [searched, if_pos directory]
    rfl
  · obtain ⟨front, last, rfl⟩ : ∃ front last, names = front ++ [last] := by
      refine (List.eq_nil_or_concat' names).resolve_left fun root => directory ?_
      rw [root]
      exact isDirectory_root tree
    have noFile : ¬tree.isFile ((Path.absolute (front ++ [last])).below target) = true :=
      fun file => directory (isDirectory_of_isFile_below way file)
    have passedOver :
        (Path.absolute (front ++ [last]) :: (Path.absolute (front ++ [last])).ancestors).find?
            (fun directory => tree.isFile (directory.below target)) =
          (Path.absolute (front ++ [last])).ancestors.find?
            (fun directory => tree.isFile (directory.below target)) :=
      List.find?_cons_of_neg noFile
    rw [searched, if_neg directory, Path.parent_concat, passedOver, Path.ancestors_concat]
    rfl

theorem findUpward?_eq_some (way : target ≠ []) {found : Path} :
    tree.findUpward? (.absolute names) target = some found ↔
      ∃ directory, tree.IsNearest (.absolute names) target directory ∧
        found = directory.below target := by
  rw [findUpward?_eq way, Option.map_eq_some_iff]
  refine exists_congr fun directory => and_congr ?_ eq_comm
  rw [Path.find?_upward]
  exact ⟨fun ⟨above, file, nearest⟩ => ⟨above, file, nearest⟩,
    fun ⟨above, file, nearest⟩ => ⟨above, file, nearest⟩⟩

theorem findUpward?_eq_none (way : target ≠ []) :
    tree.findUpward? (.absolute names) target = none ↔
      ∀ directory : Path, directory.IsAtOrAbove (.absolute names) →
        tree.isFile (directory.below target) = false := by
  rw [findUpward?_eq way, Option.map_eq_none_iff, List.find?_eq_none]
  simp only [Path.mem_upward, Bool.not_eq_true]

/-- Where some directory at or above the start has the file, the nearest one is found. -/
theorem exists_nearest (way : target ≠ []) {directory : Path}
    (above : directory.IsAtOrAbove (.absolute names))
    (file : tree.isFile (directory.below target) = true) :
    ∃ nearest, tree.IsNearest (.absolute names) target nearest ∧
      tree.findUpward? (.absolute names) target = some (nearest.below target) := by
  cases search : tree.findUpward? (.absolute names) target with
  | none =>
    have noFile := (findUpward?_eq_none way).mp search directory above
    rw [file] at noFile
    cases noFile
  | some found =>
    obtain ⟨nearest, isNearest, rfl⟩ := (findUpward?_eq_some way).mp search
    exact ⟨nearest, isNearest, rfl⟩

theorem mem_searched : Path.absolute names ∈ tree.searched (.absolute names) ↔
    tree.isDirectory (.absolute names) = true := by
  rw [searched]
  by_cases directory : tree.isDirectory (.absolute names) = true
  · rw [if_pos directory]
    exact iff_of_true List.mem_cons_self directory
  · rw [if_neg directory]
    refine iff_of_false ?_ directory
    intro member
    have depth := (Path.mem_upward.mp member).depth_le
    rw [Path.depth, List.length_dropLast] at depth
    have root : names = [] := List.eq_nil_of_length_eq_zero (by omega)
    rw [root] at directory
    exact directory (isDirectory_root tree)

end Search

end FileTree

/-- The search finds the file of the nearest directory that has one, and nothing just when none has; it
leaves out its start when that is no directory. So a configuration is the nearest one, and so is the
compiler of a project: one farther away, or on the search path, is taken only where no nearer one is. -/
theorem upwardSearch_finds_nearest (environment : Environment) (names : List Name) :
    (∀ target : List Name, target ≠ [] →
      (∀ found, environment.tree.findUpward? (.absolute names) target = some found ↔
        ∃ directory, environment.tree.IsNearest (.absolute names) target directory ∧
          found = directory.below target) ∧
      (environment.tree.findUpward? (.absolute names) target = none ↔
        ∀ directory : Path, directory.IsAtOrAbove (.absolute names) →
          environment.tree.isFile (directory.below target) = false)) ∧
    (Path.absolute names ∈ environment.tree.searched (.absolute names) ↔
      environment.tree.isDirectory (.absolute names) = true) ∧
    (∀ path, findConfig environment.tree (.absolute names) = .ok path ↔
      ∃ nearest, environment.tree.IsNearest (.absolute names) configName nearest ∧
        path = nearest.below configName) ∧
    ∀ directory : Path, directory.IsAtOrAbove (.absolute names) →
      environment.tree.isFile (directory.below Tsc.installedNames) = true →
      ∃ nearest, environment.tree.IsNearest (.absolute names) Tsc.installedNames nearest ∧
        Tsc.locate environment (.absolute names) =
          .ok ⟨(nearest.below Tsc.installedNames).toBytes, .absolute names, none⟩ := by
  have configured : configName ≠ [] := by
    decide
  have installed : Tsc.installedNames ≠ [] := by
    decide
  refine ⟨?_, FileTree.mem_searched, ?_, ?_⟩
  · intro target way
    exact ⟨fun found => FileTree.findUpward?_eq_some way, FileTree.findUpward?_eq_none way⟩
  · intro path
    rw [← FileTree.findUpward?_eq_some configured, findConfig]
    cases environment.tree.findUpward? (.absolute names) configName with
    | none => exact iff_of_false nofun nofun
    | some found => rw [Except.ok.injEq, Option.some.injEq]
  · intro directory above file
    obtain ⟨nearest, isNearest, search⟩ := FileTree.exists_nearest installed above file
    refine ⟨nearest, isNearest, ?_⟩
    rw [Tsc.locate, search]

namespace LayeredProject

/-- The directory `/app`, with a configuration and a compiler. -/
def project : Path := .absolute [⟨[97, 112, 112], by decide⟩]

/-- The directory `/app/lib`, which has neither: what is named like a configuration there is a
directory, and `node_modules` is a link that leads nowhere. -/
def sources : Path := project.child ⟨[108, 105, 98], by decide⟩

/-- The path `/app/lib/x`, at which there is nothing. -/
def missing : List Name := sources.names ++ [⟨[120], by decide⟩]

/-- The configuration of the project is a link to the one in the root. -/
def tree : FileTree :=
  ⟨[(project.names, .directory 0o755), (sources.names, .directory 0o755),
    ((sources.below configName).names, .directory 0o755),
    ((sources.below (Tsc.installedNames.take 1)).names, .link [46, 46, 47, 46, 46, 47, 120]),
    ((project.below configName).names, .link (Path.root.below configName).toBytes),
    ((Path.root.below configName).names, .file ⟨0o644, [], none⟩),
    ((project.below (Tsc.installedNames.take 1)).names, .directory 0o755),
    ((project.below (Tsc.installedNames.take 2)).names, .directory 0o755),
    ((project.below Tsc.installedNames).names, .file ⟨0o755, [], none⟩)]⟩

end LayeredProject

/-- From a path at which there is nothing, past the directory named like a configuration, the search
comes to the link of the project, and to its compiler. -/
theorem upwardSearch_finds_nearest_layeredProject :
    configName ≠ [] ∧
    LayeredProject.tree.findUpward? (.absolute LayeredProject.missing) configName =
      some (LayeredProject.project.below configName) ∧
    (∃ nearest,
      LayeredProject.tree.IsNearest (.absolute LayeredProject.missing) configName nearest ∧
        LayeredProject.project.below configName = nearest.below configName) ∧
    Path.absolute LayeredProject.missing ∉
      LayeredProject.tree.searched (.absolute LayeredProject.missing) ∧
    LayeredProject.project.IsAtOrAbove (.absolute LayeredProject.missing) ∧
    LayeredProject.tree.isFile (LayeredProject.project.below Tsc.installedNames) = true ∧
    ∃ nearest,
      LayeredProject.tree.IsNearest (.absolute LayeredProject.missing) Tsc.installedNames nearest ∧
        Tsc.locate ⟨LayeredProject.tree, some [], []⟩ (.absolute LayeredProject.missing) =
          .ok ⟨(nearest.below Tsc.installedNames).toBytes, .absolute LayeredProject.missing, none⟩ := by
  have configured : configName ≠ [] := by
    decide
  have search : LayeredProject.tree.findUpward? (.absolute LayeredProject.missing) configName =
      some (LayeredProject.project.below configName) := by
    cbv
  have nothing : LayeredProject.tree.isDirectory (.absolute LayeredProject.missing) = false := by
    cbv
  have above : LayeredProject.project.IsAtOrAbove (.absolute LayeredProject.missing) :=
    ⟨LayeredProject.project.names, rfl, by decide⟩
  have file : LayeredProject.tree.isFile (LayeredProject.project.below Tsc.installedNames) = true := by
    cbv
  obtain ⟨finds, starts, _, located⟩ :=
    upwardSearch_finds_nearest ⟨LayeredProject.tree, some [], []⟩ LayeredProject.missing
  have nearest := ((finds configName configured).1 _).mp search
  have skipped : Path.absolute LayeredProject.missing ∉
      LayeredProject.tree.searched (.absolute LayeredProject.missing) := by
    intro member
    have directory := starts.mp member
    rw [nothing] at directory
    cases directory
  exact ⟨configured, search, nearest, skipped, above, file, located _ above file⟩

end StrictFiles
