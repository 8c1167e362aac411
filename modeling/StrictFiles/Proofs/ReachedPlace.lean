import StrictFiles.Proofs.TreeOutline

/-!
Where a lookup ends that follows all links: at an entry that is no link, with directories alone above
it. So what a path leads to always has a directory beside it, where a new file can be put.
-/

namespace StrictFiles

namespace FileTree

/-- Something other than a link is at a place, and directories alone are above it. -/
structure Stands (tree : FileTree) (place : Location) : Prop where
  above : ∀ depth < place.length, tree.isDirectoryAt (place.take depth) = true
  entry : ∃ entry, tree.entry? place = some entry ∧ ∀ target, entry ≠ .link target

section Stands

variable {tree : FileTree} {place : Location}

theorem isDirectoryAt_iff :
    tree.isDirectoryAt place = true ↔ ∃ mode, tree.entry? place = some (.directory mode) := by
  rw [isDirectoryAt]
  split
  · rename_i mode found
    exact iff_of_true rfl ⟨mode, found⟩
  · rename_i other
    refine iff_of_false Bool.false_ne_true ?_
    rintro ⟨mode, found⟩
    exact other mode found

theorem stands_root (tree : FileTree) : tree.Stands [] where
  above depth below := (Nat.not_lt_zero depth below).elim
  entry := ⟨_, if_pos rfl, nofun⟩

/-- The directory that a place is in; the root is in itself. -/
theorem Stands.isDirectoryAt_dropLast (stands : tree.Stands place) :
    tree.isDirectoryAt place.dropLast = true := by
  cases place with
  | nil => exact isDirectoryAt_iff.mpr ⟨_, if_pos rfl⟩
  | cons first rest =>
    rw [List.dropLast_eq_take]
    exact stands.above _ (by simp)

theorem Stands.dropLast (stands : tree.Stands place) : tree.Stands place.dropLast where
  above depth below := by
    rw [List.length_dropLast] at below
    rw [List.dropLast_eq_take, List.take_take, Nat.min_eq_left (Nat.le_of_lt below)]
    exact stands.above depth (by omega)
  entry := by
    obtain ⟨mode, found⟩ := isDirectoryAt_iff.mp stands.isDirectoryAt_dropLast
    exact ⟨_, found, nofun⟩

theorem Stands.child {name : Name} {entry : Entry} (stands : tree.Stands place)
    (directory : tree.isDirectoryAt place = true) (found : tree.entry? (place ++ [name]) = some entry)
    (noLink : ∀ target, entry ≠ .link target) : tree.Stands (place ++ [name]) where
  above depth below := by
    rw [List.length_append, List.length_singleton, Nat.lt_succ_iff] at below
    rw [List.take_append_of_le_length below]
    rcases Nat.lt_or_eq_of_le below with inside | rfl
    · exact stands.above depth inside
    · rwa [List.take_length]
  entry := ⟨entry, found, noLink⟩

/-- A step goes into a directory that is there, out of one, or to the start of a link, so whatever has
been reached stands. -/
theorem Stands.walk {links : Nat} {todo : List Step} {found : Location} (stands : tree.Stands place)
    (walked : tree.walk true links place todo = .ok (.occupied found)) : tree.Stands found := by
  generalize follow : true = followLast at walked
  fun_induction FileTree.walk tree followLast links place todo with
  | case1 =>
    cases walked
    exact stands
  | case2 links place rest directory ih => exact ih stands walked
  | case4 links place rest directory ih => exact ih stands.dropLast walked
  | case10 links place name rest directory short target found stop =>
    -- The walk stops at a link only when the last one is not followed.
    rw [← follow] at stop
    simp at stop
  | case12 place name rest directory short target found follows links ih =>
    -- The target of a link is walked from the root or from where the link is.
    refine ih ?_ walked
    split
    · exact stands_root tree
    · exact stands
  | case13 links place name rest directory short entry noLink found ih =>
    exact ih (stands.child (by simpa using directory) found fun target => noLink target) walked
  | _ => cases walked

end Stands

theorem stands_of_locate {tree : FileTree} {path : Path} {place : Location}
    (located : tree.locate path = .ok place) : tree.Stands place := by
  rw [locate, locateFrom, follow] at located
  split at located
  · cases located
  split at located
  · cases located
  split at located
  · cases located
  rcases walked : tree.walk true greatestLinkCount (if isRooted path.toBytes then [] else [])
      (steps path.toBytes) with cause | spot
  · rw [walked] at located
    cases located
  · rw [walked] at located
    cases spot with
    | vacant directory name => cases located
    | occupied found =>
      cases located
      refine Stands.walk ?_ walked
      rw [ite_self]
      exact stands_root tree

end FileTree

end StrictFiles
