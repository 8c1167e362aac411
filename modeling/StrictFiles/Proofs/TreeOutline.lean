import StrictFiles.Config.Load
import StrictFiles.Discovery.Files
import StrictFiles.Proofs.ReplacedContent

/-!
Lookups and discovery read the outline of a tree only: which places hold directories, files and
links, and where the links lead. What is in a file makes no difference to them.
-/

namespace StrictFiles

/-- An entry without what it holds. -/
def Entry.outline : Entry → Entry
  | .file _ => .file ⟨0, [], none⟩
  | .directory mode => .directory mode
  | .link target => .link target

namespace FileTree

/-- The same kinds of entries at the same places, in whatever order they are enumerated. -/
def SameKinds (tree other : FileTree) : Prop :=
  ∀ place, (other.entry? place).map Entry.outline = (tree.entry? place).map Entry.outline

namespace SameKinds

variable {tree other : FileTree} (same : SameKinds tree other)

include same

theorem vacant {place : Location} (found : tree.entry? place = none) : other.entry? place = none := by
  have kind := same place
  rw [found, Option.map_none, Option.map_eq_none_iff] at kind
  exact kind

theorem occupied {place : Location} {entry : Entry} (found : tree.entry? place = some entry) :
    ∃ known, other.entry? place = some known ∧ known.outline = entry.outline := by
  have kind := same place
  rwa [found, Option.map_some, Option.map_eq_some_iff] at kind

theorem link {place : Location} {target : Bytes} (found : tree.entry? place = some (.link target)) :
    other.entry? place = some (.link target) := by
  obtain ⟨known, there, outline⟩ := same.occupied found
  cases known <;> cases outline
  exact there

theorem isDirectoryAt (place : Location) : other.isDirectoryAt place = tree.isDirectoryAt place := by
  rw [FileTree.isDirectoryAt, FileTree.isDirectoryAt]
  cases found : tree.entry? place with
  | none => rw [same.vacant found]
  | some entry =>
    obtain ⟨known, there, outline⟩ := same.occupied found
    rw [there]
    cases entry <;> cases known <;> cases outline <;> rfl

/-- Each step looks only at the kind of an entry, and at where a link leads. -/
theorem walk (followLast : Bool) (links : Nat) (place : Location) (todo : List Step) :
    other.walk followLast links place todo = tree.walk followLast links place todo := by
  fun_induction FileTree.walk tree followLast links place todo with
  | case1 => rw [FileTree.walk]
  | case2 links place rest directory ih =>
    rw [FileTree.walk, same.isDirectoryAt, if_pos directory]
    exact ih
  | case3 links place rest noDirectory =>
    rw [FileTree.walk, same.isDirectoryAt, if_neg noDirectory]
  | case4 links place rest directory ih =>
    rw [FileTree.walk, same.isDirectoryAt, if_pos directory]
    exact ih
  | case5 links place rest noDirectory =>
    rw [FileTree.walk, same.isDirectoryAt, if_neg noDirectory]
  | case6 links place name rest noDirectory =>
    rw [FileTree.walk, same.isDirectoryAt, if_pos noDirectory]
  | case7 links place name rest directory long =>
    rw [FileTree.walk, same.isDirectoryAt, if_neg directory, if_pos long]
  | case8 links place name rest directory short found last =>
    rw [FileTree.walk, same.isDirectoryAt, if_neg directory, if_neg short, same.vacant found]
    exact if_pos last
  | case9 links place name rest directory short found last =>
    rw [FileTree.walk, same.isDirectoryAt, if_neg directory, if_neg short, same.vacant found]
    exact if_neg last
  | case10 links place name rest directory short target found stop =>
    rw [FileTree.walk, same.isDirectoryAt, if_neg directory, if_neg short, same.link found]
    exact if_pos stop
  | case11 place name rest directory short target found follow =>
    rw [FileTree.walk, same.isDirectoryAt, if_neg directory, if_neg short, same.link found]
    exact if_neg follow
  | case12 place name rest directory short target found follow links ih =>
    rw [FileTree.walk, same.isDirectoryAt, if_neg directory, if_neg short, same.link found]
    simp only [if_neg follow]
    simpa using ih
  | case13 links place name rest directory short entry noLink found ih =>
    obtain ⟨known, there, outline⟩ := same.occupied found
    rw [FileTree.walk, same.isDirectoryAt, if_neg directory, if_neg short, there]
    cases entry with
    | link target => exact (noLink target rfl).elim
    | directory mode => cases known <;> cases outline; exact ih
    | file file => cases known <;> cases outline; exact ih

theorem locate (path : Path) : other.locate path = tree.locate path := by
  simp only [FileTree.locate, locateFrom, follow, same.walk]

theorem isReachable (root place : Location) :
    Discovery.isReachable other root place = Discovery.isReachable tree root place := by
  simp only [Discovery.isReachable, same.isDirectoryAt]

theorem fileBelow (root place : Location) :
    Discovery.fileBelow? other root place = Discovery.fileBelow? tree root place := by
  rw [Discovery.fileBelow?, Discovery.fileBelow?]
  cases found : tree.entry? place with
  | none => rw [same.vacant found]
  | some entry =>
    obtain ⟨known, there, outline⟩ := same.occupied found
    rw [there, same.isReachable]
    cases entry <;> cases known <;> cases outline <;> rfl

end SameKinds

/-- The same kinds of entries at the same places, enumerated in the same order. -/
structure SameOutline (tree other : FileTree) : Prop where
  kinds : ∀ place, (other.entry? place).map Entry.outline = (tree.entry? place).map Entry.outline
  places : other.entries.map Prod.fst = tree.entries.map Prod.fst

namespace SameOutline

variable {tree other : FileTree} (same : SameOutline tree other)

include same

theorem sameKinds : SameKinds tree other :=
  same.kinds

theorem filesBelow (root : Location) :
    Discovery.filesBelow other root = Discovery.filesBelow tree root := by
  have below (entries : List (Location × Entry)) :
      (entries.filterMap fun known => Discovery.fileBelow? tree root known.1) =
        (entries.map Prod.fst).filterMap (Discovery.fileBelow? tree root) := by
    rw [List.filterMap_map]
    rfl
  simp only [Discovery.filesBelow, same.sameKinds.fileBelow]
  rw [below, below, same.places]

/-- The same files are found, in the same order. -/
theorem discover (root : Path) (extensions : List String) :
    discover other root extensions = StrictFiles.discover tree root extensions := by
  simp only [StrictFiles.discover, Discovery.selected, same.sameKinds.locate,
    same.sameKinds.isDirectoryAt, same.filesBelow]

end SameOutline

/-- A file with other content is still a file. -/
theorem sameOutline_put {tree : FileTree} {place : Location} {old : RegularFile} (below : place ≠ [])
    (found : tree.entry? place = some (.file old)) (new : RegularFile) :
    SameOutline tree (tree.put place (.file new)) where
  kinds other := by
    by_cases here : other = place
    · subst here
      rw [entry?_put_self below found, found]
      rfl
    · rw [entry?_put_of_ne below found _ here]
  places := by
    rw [put_eq_overwrite below found, List.map_map]
    apply List.map_congr_left
    intro known _
    rw [Function.comp_apply]
    split
    · rename_i here
      exact here.symm
    · rfl

theorem status_eq_ok {tree : FileTree} {path : Path} {entry : Entry} :
    tree.status path = .ok entry ↔
      ∃ place, tree.locate path = .ok place ∧ tree.entry? place = some entry := by
  rw [status]
  cases located : tree.locate path with
  | error cause => simp [bind, Except.bind]
  | ok place =>
    simp only [bind, Except.bind, Except.ok.injEq, exists_eq_left']
    cases tree.entry? place <;> simp [pure, Except.pure, throw, throwThe, MonadExceptOf.throw]

/-- Behind the path of a file there is a file with the new content and the old mode, once its content
is replaced; nothing moves. -/
theorem replaceContent_file {tree after : FileTree} {path : Path} {file : RegularFile} {bytes : Bytes}
    (status : tree.status path = .ok (.file file))
    (replaced : tree.replaceContent path bytes = (after, .ok ())) :
    SameOutline tree after ∧ after.status path = .ok (.file ⟨file.mode, bytes, none⟩) := by
  obtain ⟨target, located, found⟩ := status_eq_ok.mp status
  obtain ⟨place, old, known, below, there, _, rfl⟩ := replaceContent_ok replaced
  rw [located, Except.ok.injEq] at known
  subst known
  rw [found, Option.some.injEq] at there
  subst there
  have same := sameOutline_put below found ⟨file.mode, bytes, none⟩
  refine ⟨same, status_eq_ok.mpr ⟨target, ?_, entry?_put_self below found _⟩⟩
  rw [← located]
  exact same.sameKinds.locate path

end FileTree

end StrictFiles
