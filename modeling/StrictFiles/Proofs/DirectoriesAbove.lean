import Mathlib.Data.List.Induction
import StrictFiles.Proofs.PathSpelling

/-!
The directories at or above a path. They have some of its names, from the root on, are spelled as it
starts, and are what its ancestors list, nearest first.
-/

namespace StrictFiles

namespace Path

/-- What a way of names leads to from a directory. -/
def below (directory : Path) (way : List Name) : Path :=
  way.foldl child directory

/-- A directory above a path, or the path itself: some of its names, from the root on. -/
def IsAtOrAbove (directory path : Path) : Prop :=
  ∃ above, directory = .absolute above ∧ above <+: path.names

section Spelling

theorem below_absolute (names way : List Name) :
    (Path.absolute names).below way = .absolute (names ++ way) := by
  have pushed := foldl_push_names names way
  rw [List.foldl_map] at pushed
  exact pushed

theorem joinSlashes_prefix (pieces more : List Bytes) :
    joinSlashes pieces <+: joinSlashes (pieces ++ more) := by
  induction pieces with
  | nil => exact List.nil_prefix
  | cons piece pieces ih =>
    cases pieces with
    | nil =>
      cases more with
      | nil => exact List.prefix_refl piece
      | cons next more => exact List.prefix_append piece _
    | cons second pieces =>
      show piece ++ slash :: joinSlashes (second :: pieces) <+:
        piece ++ slash :: joinSlashes (second :: pieces ++ more)
      exact (List.prefix_append_right_inj piece).mpr (List.cons_prefix_cons.mpr ⟨rfl, ih⟩)

/-- A directory is spelled at the start of all that is below it. -/
theorem toBytes_prefix (names way : List Name) :
    (Path.absolute names).toBytes <+: (Path.absolute (names ++ way)).toBytes := by
  rw [toBytes, toBytes, List.map_append]
  exact List.cons_prefix_cons.mpr ⟨rfl, joinSlashes_prefix _ _⟩

end Spelling

section Above

theorem isAtOrAbove_self (names : List Name) :
    (Path.absolute names).IsAtOrAbove (.absolute names) :=
  ⟨names, rfl, List.prefix_refl names⟩

/-- What is at or above an entry of a directory: the entry, or what is at or above the directory. -/
theorem isAtOrAbove_concat {directory : Path} {names : List Name} {name : Name} :
    directory.IsAtOrAbove (.absolute (names ++ [name])) ↔
      directory = .absolute (names ++ [name]) ∨ directory.IsAtOrAbove (.absolute names) := by
  constructor
  · rintro ⟨above, rfl, leads⟩
    rcases List.prefix_concat_iff.mp leads with rfl | inside
    · exact .inl rfl
    · exact .inr ⟨above, rfl, inside⟩
  · rintro (rfl | ⟨above, rfl, leads⟩)
    · exact isAtOrAbove_self _
    · exact ⟨above, rfl, leads.trans (List.prefix_append names [name])⟩

/-- An entry of a directory is at or above the paths that have its name behind those of the directory. -/
theorem isAtOrAbove_child {directory : Path} {name : Name} {names : List Name} :
    (directory.child name).IsAtOrAbove (.absolute names) ↔
      ∃ shared rest, directory = .absolute shared ∧ names = shared ++ name :: rest := by
  cases directory with
  | relative climbs others =>
    refine iff_of_false ?_ ?_
    · rintro ⟨_, same, _⟩
      have rooted := isAbsolute_push (.relative climbs others) (.name name)
      rw [← child, same] at rooted
      cases rooted
    · rintro ⟨_, _, same, _⟩
      cases same
  | absolute shared =>
    constructor
    · rintro ⟨_, same, rest, split⟩
      cases same
      exact ⟨shared, rest, rfl, split.symm.trans (List.append_cons shared name rest).symm⟩
    · rintro ⟨_, rest, same, rfl⟩
      cases same
      exact ⟨shared ++ [name], rfl, rest, (List.append_cons shared name rest).symm⟩

theorem IsAtOrAbove.depth_le {directory : Path} {names : List Name}
    (above : directory.IsAtOrAbove (.absolute names)) : directory.depth ≤ names.length := by
  obtain ⟨above, rfl, leads⟩ := above
  exact leads.length_le

theorem parent_concat (names : List Name) (name : Name) :
    (Path.absolute (names ++ [name])).parent = .absolute names := by
  rw [parent, List.dropLast_concat]

theorem ancestors_concat (names : List Name) (name : Name) :
    (Path.absolute (names ++ [name])).ancestors =
      .absolute names :: (Path.absolute names).ancestors := by
  have depth : (Path.absolute (names ++ [name])).depth = names.length + 1 := by
    rw [Path.depth, List.length_append, List.length_singleton]
  rw [ancestors, depth, ancestors.go, parent_concat]
  rfl

theorem ancestors_root : (Path.absolute []).ancestors = [] :=
  rfl

theorem mem_upward {directory : Path} {names : List Name} :
    directory ∈ Path.absolute names :: (Path.absolute names).ancestors ↔
      directory.IsAtOrAbove (.absolute names) := by
  induction names using List.reverseRecOn with
  | nil =>
    rw [ancestors_root, List.mem_singleton]
    constructor
    · rintro rfl
      exact isAtOrAbove_self []
    · rintro ⟨above, rfl, leads⟩
      rw [List.prefix_nil.mp leads]
  | append_singleton names name ih =>
    rw [ancestors_concat, List.mem_cons, ih, isAtOrAbove_concat]

/-- Of a path and the directories above it the deepest that passes is the first one that does. -/
theorem find?_upward {passes : Path → Bool} {names : List Name} {directory : Path} :
    (Path.absolute names :: (Path.absolute names).ancestors).find? passes = some directory ↔
      directory.IsAtOrAbove (.absolute names) ∧ passes directory = true ∧
        ∀ other : Path, other.IsAtOrAbove (.absolute names) → passes other = true →
          other.depth ≤ directory.depth := by
  induction names using List.reverseRecOn with
  | nil =>
    have alone : directory.IsAtOrAbove (.absolute []) ↔ directory = .absolute [] := by
      rw [← mem_upward]
      exact List.mem_singleton
    rw [alone, ancestors_root, List.find?_singleton]
    by_cases here : passes (.absolute []) = true
    · rw [if_pos here, Option.some.injEq, eq_comm]
      refine ⟨fun same => ⟨same, same ▸ here, ?_⟩, fun found => found.1⟩
      subst same
      exact fun other above _ => above.depth_le
    · rw [if_neg here]
      refine iff_of_false nofun ?_
      rintro ⟨rfl, passing, _⟩
      exact here passing
  | append_singleton names name ih =>
    rw [ancestors_concat]
    by_cases here : passes (.absolute (names ++ [name])) = true
    · rw [List.find?_cons_of_pos here, Option.some.injEq]
      constructor
      · rintro rfl
        exact ⟨isAtOrAbove_self _, here, fun other above _ => above.depth_le⟩
      · rintro ⟨above, _, deepest⟩
        have deep := deepest _ (isAtOrAbove_self _) here
        rcases isAtOrAbove_concat.mp above with same | higher
        · exact same.symm
        · have short := higher.depth_le
          rw [depth, List.length_append, List.length_singleton] at deep
          omega
    · rw [List.find?_cons_of_neg here, ih]
      constructor
      · rintro ⟨above, passing, deepest⟩
        refine ⟨isAtOrAbove_concat.mpr (.inr above), passing, ?_⟩
        intro other otherAbove otherPasses
        rcases isAtOrAbove_concat.mp otherAbove with rfl | higher
        · exact (here otherPasses).elim
        · exact deepest other higher otherPasses
      · rintro ⟨above, passing, deepest⟩
        rcases isAtOrAbove_concat.mp above with rfl | higher
        · exact (here passing).elim
        · exact ⟨higher, passing, fun other otherAbove =>
            deepest other (isAtOrAbove_concat.mpr (.inr otherAbove))⟩

end Above

end Path

end StrictFiles
