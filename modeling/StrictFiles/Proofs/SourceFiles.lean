import Mathlib
import StrictFiles.Proofs.ExtensionPattern
import StrictFiles.Proofs.ReachedPlace
import StrictFiles.Proofs.SortedPaths

/-!
Which files are found below a directory: those that lie at the end of a way down through directories,
never through a link, and whose name has one of the extensions. They come in the order of paths, and
neither the order of the tree's entries nor that of the extensions shows.
-/

namespace StrictFiles

namespace FileTree

/-- A regular file lies below a place at the end of a way: the last name is that of the file, and all
places above it hold directories. -/
inductive FileBelow (tree : FileTree) : Location → List Name → Prop
  | here {place : Location} {name : Name} {file : RegularFile}
      (directory : tree.isDirectoryAt place = true)
      (found : tree.entry? (place ++ [name]) = some (.file file)) : FileBelow tree place [name]
  | inside {place : Location} {name : Name} {way : List Name}
      (directory : tree.isDirectoryAt place = true)
      (below : FileBelow tree (place ++ [name]) way) : FileBelow tree place (name :: way)

section FileBelow

variable {tree other : FileTree} {place : Location} {way : List Name}

theorem fileBelow_iff (directory : tree.isDirectoryAt place = true) :
    FileBelow tree place way ↔
      (∃ file, tree.entry? (place ++ way) = some (.file file)) ∧
        ∀ depth < way.length, tree.isDirectoryAt (place ++ way.take depth) = true := by
  constructor
  · intro below
    clear directory
    induction below with
    | here directory found => exact ⟨⟨_, found⟩, by simpa using directory⟩
    | @inside place name way directory below ih =>
      obtain ⟨⟨file, found⟩, above⟩ := ih
      rw [List.append_assoc] at found
      refine ⟨⟨file, found⟩, fun depth short => ?_⟩
      cases depth with
      | zero => simpa using directory
      | succ depth =>
        have deeper := above depth (Nat.lt_of_succ_lt_succ short)
        rwa [List.append_assoc] at deeper
  · rintro ⟨⟨file, found⟩, above⟩
    induction way generalizing place with
    | nil =>
      -- Without a name the place itself would have to be the file.
      obtain ⟨mode, there⟩ := isDirectoryAt_iff.mp directory
      rw [List.append_nil, there] at found
      cases found
    | cons name way ih =>
      cases way with
      | nil => exact .here directory found
      | cons next rest =>
        refine .inside directory (ih (above 1 (by simp)) (fun depth short => ?_) ?_)
        · have deeper := above (depth + 1) (Nat.succ_lt_succ short)
          rwa [List.append_assoc]
        · rwa [List.append_assoc]

theorem entries_of_entry? {entry : Entry} (found : tree.entry? place = some entry)
    (below : place ≠ []) : ∃ known ∈ tree.entries, known.1 = place := by
  rw [FileTree.entry?, if_neg below, List.lookup_eq_some_iff] at found
  obtain ⟨before, after, whole, _⟩ := found
  exact ⟨(place, entry), by simp [whole], rfl⟩

theorem isDirectory_iff {path : Path} :
    tree.isDirectory path = true ↔
      ∃ place, tree.locate path = .ok place ∧ tree.isDirectoryAt place = true := by
  have opened : tree.isDirectory path = true ↔ ∃ mode, tree.status path = .ok (.directory mode) := by
    rw [isDirectory]
    split <;> simp_all
  simp only [opened, status_eq_ok, isDirectoryAt_iff]
  constructor
  · rintro ⟨mode, place, located, found⟩
    exact ⟨place, located, mode, found⟩
  · rintro ⟨place, located, mode, found⟩
    exact ⟨mode, place, located, found⟩

theorem FileBelow.of_sameKinds (same : SameKinds tree other) (below : FileBelow tree place way) :
    FileBelow other place way := by
  induction below with
  | @here place name file directory found =>
    obtain ⟨known, there, outline⟩ := same.occupied found
    cases known <;> cases outline
    exact .here (by rwa [same.isDirectoryAt]) there
  | inside directory _ ih => exact .inside (by rwa [same.isDirectoryAt]) ih

namespace SameKinds

theorem symm (same : SameKinds tree other) : SameKinds other tree :=
  fun place => (same place).symm

theorem sameFileBelow (same : SameKinds tree other) :
    FileBelow other place way ↔ FileBelow tree place way :=
  ⟨.of_sameKinds same.symm, .of_sameKinds same⟩

theorem isDirectory (same : SameKinds tree other) (path : Path) :
    other.isDirectory path = tree.isDirectory path := by
  rw [Bool.eq_iff_iff, isDirectory_iff, isDirectory_iff]
  simp only [same.locate, same.isDirectoryAt]

end SameKinds

end FileBelow

end FileTree

namespace Discovery

section Found

variable {tree : FileTree} {root : Location} {way : List Name}

theorem isReachable_iff :
    isReachable tree root (root ++ way) = true ↔
      ∀ depth < way.length, tree.isDirectoryAt (root ++ way.take depth) = true := by
  rw [isReachable, List.length_append, Nat.add_sub_cancel_left, List.all_eq_true]
  simp only [List.mem_range, List.take_length_add_append]

theorem fileBelow?_eq_some {place : Location} :
    fileBelow? tree root place = some way ↔
      place = root ++ way ∧ (∃ file, tree.entry? (root ++ way) = some (.file file)) ∧
        ∀ depth < way.length, tree.isDirectoryAt (root ++ way.take depth) = true := by
  rw [← isReachable_iff]
  constructor
  · intro below
    rw [fileBelow?] at below
    split at below
    · rename_i file found
      split at below
      · rename_i reached
        rw [Bool.and_eq_true, List.isPrefixOf_iff_prefix] at reached
        obtain ⟨⟨behind, rfl⟩, reachable⟩ := reached
        rw [List.drop_left, Option.some.injEq] at below
        subst below
        exact ⟨rfl, ⟨file, found⟩, reachable⟩
      · cases below
    · cases below
  · rintro ⟨rfl, ⟨file, found⟩, reachable⟩
    have below : root.isPrefixOf (root ++ way) = true :=
      List.isPrefixOf_iff_prefix.mpr (List.prefix_append root way)
    rw [fileBelow?, found]
    dsimp only
    rw [below, reachable, Bool.and_self, if_pos rfl, List.drop_left]

/-- The ways that are found are those to regular files. -/
theorem mem_filesBelow (directory : tree.isDirectoryAt root = true) :
    way ∈ filesBelow tree root ↔ tree.FileBelow root way := by
  rw [filesBelow, List.mem_filterMap, FileTree.fileBelow_iff directory]
  constructor
  · rintro ⟨known, _, below⟩
    exact (fileBelow?_eq_some.mp below).2
  · rintro ⟨⟨file, found⟩, above⟩
    have below : root ++ way ≠ [] := by
      intro top
      rw [top, FileTree.entry?, if_pos rfl] at found
      cases found
    obtain ⟨known, among, here⟩ := FileTree.entries_of_entry? found below
    exact ⟨known, among, fileBelow?_eq_some.mpr ⟨here, ⟨file, found⟩, above⟩⟩

end Found

/-- A path is that of a source file: from where the root is a way leads down to a regular file, and
its name has one of the extensions. -/
def IsSource (tree : FileTree) (root : Path) (extensions : List String) (file : Path) : Prop :=
  ∃ place way name, tree.locate root = .ok place ∧ tree.FileBelow place way ∧
    way.getLast? = some name ∧ (∃ extension ∈ extensions, HasExtension name extension) ∧
    file = way.foldl Path.child root

section Sources

variable {tree other : FileTree} {root : Path} {place : Location} {extensions others : List String}

theorem mem_selected (plain : ∀ extension ∈ extensions, Glob.IsLiteral extension.toList)
    (located : tree.locate root = .ok place) (directory : tree.isDirectoryAt place = true)
    {file : Path} :
    file ∈ selected tree root place (extensions.map extensionGlob) ↔
      IsSource tree root extensions file := by
  have chosen (way : List Name) :
      ((extensions.map extensionGlob).any fun glob => glob.selectsFile (wayText way)) = true ↔
        ∃ name, way.getLast? = some name ∧ ∃ extension ∈ extensions, HasExtension name extension := by
    rw [List.any_map, List.any_eq_true]
    constructor
    · rintro ⟨extension, among, selects⟩
      obtain ⟨name, last, ends⟩ := (selectsFile_extensionGlob (plain extension among) way).mp selects
      exact ⟨name, last, extension, among, ends⟩
    · rintro ⟨name, last, extension, among, ends⟩
      exact ⟨extension, among,
        (selectsFile_extensionGlob (plain extension among) way).mpr ⟨name, last, ends⟩⟩
  rw [selected, Path.mem_sort, mem_distinct, List.mem_map]
  simp only [List.mem_filter, mem_filesBelow directory, chosen]
  constructor
  · rintro ⟨way, ⟨below, name, last, ends⟩, rfl⟩
    exact ⟨place, way, name, located, below, last, ends, rfl⟩
  · rintro ⟨_, way, name, known, below, last, ends, rfl⟩
    rw [located, Except.ok.injEq] at known
    subst known
    exact ⟨way, ⟨below, name, last, ends⟩, rfl⟩

/-- Finding succeeds below every directory, and what it finds is in order. -/
theorem discover_of_directory (plain : ∀ extension ∈ extensions, Glob.IsLiteral extension.toList)
    (directory : tree.isDirectory root = true) :
    ∃ files, discover tree root extensions = .ok files ∧
      (∀ file, file ∈ files ↔ IsSource tree root extensions file) ∧
      files.Pairwise Path.Before := by
  obtain ⟨place, located, isDirectory⟩ := FileTree.isDirectory_iff.mp directory
  refine ⟨selected tree root place (extensions.map extensionGlob), ?_,
    fun file => mem_selected plain located isDirectory, Path.sort_distinct_before _⟩
  rw [discover, located]
  dsimp only
  rw [isDirectory, globs_of_literal plain]
  rfl

/-- What is a source file depends on the kinds of the entries and on the set of the extensions. -/
theorem IsSource.of_sameKinds (same : FileTree.SameKinds tree other)
    (listed : ∀ extension, extension ∈ others ↔ extension ∈ extensions) {file : Path} :
    IsSource other root others file ↔ IsSource tree root extensions file := by
  simp only [IsSource, same.locate, same.sameFileBelow, listed]

end Sources

end Discovery

/-- What is found below a directory are the source files, all of them and nothing else, in ascending
order. The order in which the tree enumerates its entries makes no difference, nor does that of the
extensions or their repetition. Where there is no directory nothing is found but an error. -/
theorem discover_finds_sources (tree : FileTree) (root : Path) {extensions : List String}
    (plain : ∀ extension ∈ extensions, Glob.IsLiteral extension.toList) :
    (tree.isDirectory root = true →
      ∃ files, discover tree root extensions = .ok files ∧
        (∀ file, file ∈ files ↔ Discovery.IsSource tree root extensions file) ∧
        files.Pairwise Path.Before ∧ files.Nodup ∧
        ∀ other others, FileTree.SameKinds tree other →
          (∀ extension, extension ∈ others ↔ extension ∈ extensions) →
            discover other root others = .ok files) ∧
    (tree.isDirectory root = false →
      discover tree root extensions = .error ⟨root, .missingRoot⟩) := by
  constructor
  · intro directory
    obtain ⟨files, found, sources, ascending⟩ := Discovery.discover_of_directory plain directory
    refine ⟨files, found, sources, ascending,
      ascending.imp fun before => (Path.before_iff.mp before).2, fun other others same listed => ?_⟩
    have otherPlain : ∀ extension ∈ others, Glob.IsLiteral extension.toList :=
      fun extension among => plain extension ((listed extension).mp among)
    have otherDirectory : other.isDirectory root = true := by
      rwa [same.isDirectory]
    obtain ⟨otherFiles, otherFound, otherSources, otherAscending⟩ :=
      Discovery.discover_of_directory otherPlain otherDirectory
    have equal : otherFiles = files := Path.eq_of_before otherAscending ascending fun file => by
      rw [otherSources, sources, Discovery.IsSource.of_sameKinds same listed]
    rw [otherFound, equal]
  · intro noDirectory
    rw [discover]
    cases located : tree.locate root with
    | error cause => rfl
    | ok place =>
      have none : tree.isDirectoryAt place = false := by
        rw [← Bool.not_eq_true] at noDirectory ⊢
        exact fun directory =>
          noDirectory (FileTree.isDirectory_iff.mpr ⟨place, located, directory⟩)
      dsimp only
      rw [none]
      rfl

namespace LinkedSources

/-- The directory `/src`. -/
def root : Path := .absolute [⟨[115, 114, 99], by decide⟩]

/-- The directory `/src/x.ts`, which is named like a source file. -/
def directory : Path := root.child ⟨[120, 46, 116, 115], by decide⟩

/-- The file `/src/x.ts/.ts`, whose name is nothing but an ending. -/
def hidden : Path := directory.child ⟨[46, 116, 115], by decide⟩

/-- The link `/src/l.ts` leads to the file, the link `/src/dir` to the directory it is in. -/
def tree : FileTree :=
  ⟨[(hidden.names, .file ⟨0o644, [], none⟩), (root.names, .directory 0o755),
    ((root.child ⟨[108, 46, 116, 115], by decide⟩).names, .link (Utf8.ofString "x.ts/.ts")),
    ((root.child ⟨[100, 105, 114], by decide⟩).names, .link (Utf8.ofString "x.ts")),
    (directory.names, .directory 0o755)]⟩

end LinkedSources

/-- The hidden file is the only source file; neither the links nor the directory is one. -/
theorem discover_finds_sources_linkedSources :
    (∀ extension ∈ [".ts", "ts"], Glob.IsLiteral extension.toList) ∧
    LinkedSources.tree.isDirectory LinkedSources.root = true ∧
    discover LinkedSources.tree LinkedSources.root [".ts", "ts"] = .ok [LinkedSources.hidden] ∧
    ∀ file, Discovery.IsSource LinkedSources.tree LinkedSources.root [".ts", "ts"] file ↔
      file = LinkedSources.hidden := by
  have plain : ∀ extension ∈ [".ts", "ts"], Glob.IsLiteral extension.toList := by
    decide
  have directory : LinkedSources.tree.isDirectory LinkedSources.root = true := by
    cbv
  have found :
      discover LinkedSources.tree LinkedSources.root [".ts", "ts"] = .ok [LinkedSources.hidden] := by
    cbv
  obtain ⟨files, known, sources, _⟩ :=
    (discover_finds_sources LinkedSources.tree LinkedSources.root plain).1 directory
  rw [found, Except.ok.injEq] at known
  subst known
  refine ⟨plain, directory, found, fun file => ?_⟩
  rw [← sources file, List.mem_singleton]

end StrictFiles
