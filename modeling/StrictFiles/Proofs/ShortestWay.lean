import StrictFiles.Proofs.PathSpelling

/-!
The way from a directory to a file is the shortest there is. A segment takes a place at most one step
nearer to another, so a text that leads somewhere has at least as many segments as the way there.
-/

namespace StrictFiles

namespace Path

/-- The steps from one place to another: out of what is not shared, and down. -/
def distance (base target : List Name) : Nat :=
  (base.length - sharedNames base target) + (target.length - sharedNames base target)

theorem distance_self (names : List Name) : distance names names = 0 := by
  have all : names.length ≤ sharedNames names names :=
    le_sharedNames_iff.mpr ⟨Nat.le_refl _, Nat.le_refl _, rfl⟩
  rw [distance]
  omega

/-- A step down shares at most one name more. -/
theorem distance_child (base target : List Name) (name : Name) :
    distance base target ≤ distance (base ++ [name]) target + 1 := by
  let before := sharedNames base target
  let after := sharedNames (base ++ [name]) target
  obtain ⟨within, below, same⟩ := le_sharedNames_iff.mp (Nat.le_refl after)
  rw [List.length_append, List.length_singleton] at within
  have shorter : base.take (after - 1) = target.take (after - 1) := by
    have cut := congrArg (List.take (after - 1)) same
    rw [List.take_take, List.take_take, Nat.min_eq_left (by omega),
      List.take_append_of_le_length (by omega)] at cut
    exact cut
  have most : after - 1 ≤ before := le_sharedNames_iff.mpr ⟨by omega, by omega, shorter⟩
  rw [distance, distance, List.length_append, List.length_singleton]
  omega

/-- A step up shares no name that was not shared before. -/
theorem distance_parent (base target : List Name) :
    distance base target ≤ distance base.dropLast target + 1 := by
  let before := sharedNames base target
  let after := sharedNames base.dropLast target
  obtain ⟨within, below, same⟩ := le_sharedNames_iff.mp (Nat.le_refl after)
  rw [List.dropLast_eq_take, List.take_take, ← List.length_dropLast, Nat.min_eq_left within] at same
  rw [List.length_dropLast] at within
  have most : after ≤ before := le_sharedNames_iff.mpr ⟨by omega, below, same⟩
  rw [distance, distance, List.length_dropLast]
  omega

/-- Segments that lead from one place to another are as many as the steps between them, or more. -/
theorem distance_le_of_leads {way : List Segment} {base target : List Name}
    (leads : way.foldl push (.absolute base) = .absolute target) :
    distance base target ≤ way.length := by
  induction way generalizing base with
  | nil =>
    cases leads
    exact Nat.le_of_eq (distance_self target)
  | cons segment way ih =>
    rw [List.foldl_cons] at leads
    rw [List.length_cons]
    cases segment with
    | up =>
      have rest := ih leads
      have step := distance_parent base target
      omega
    | name n =>
      have rest := ih leads
      have step := distance_child base target n
      omega

theorem joinSlashes_eq_nil {way : List Segment} :
    joinSlashes (way.map Segment.bytes) = [] ↔ way = [] := by
  constructor
  · intro empty
    have read := segments_joinSlashes way
    rw [empty] at read
    exact read.symm
  · rintro rfl
    rfl

/-- The way from a directory to a file, both absolute, climbs and then goes down, and leads to the file.
It is empty only from the file itself, and no text that starts at the directory and leads to the file has
fewer segments, even when `.` and empty ones are not counted. -/
theorem relativeTo_shortest {file directory : Path} (absolute : file.isAbsolute)
    (rooted : directory.isAbsolute) :
    ∃ (climbs : Nat) (names : List Name), file.relativeTo directory = .relative climbs names ∧
      (file.relativeTo directory).toBytes =
        joinSlashes (List.replicate climbs [46, 46] ++ names.map Name.bytes) ∧
      resolve (file.relativeTo directory).toBytes directory = file ∧
      ((file.relativeTo directory).toBytes = [] ↔ file = directory) ∧
      ∀ text, isRooted text = false → resolve text directory = file →
        climbs + names.length ≤ (segments text).length := by
  cases file with
  | relative climbs names => cases absolute
  | absolute target =>
    cases directory with
    | relative climbs names => cases rooted
    | absolute base =>
      have leads := resolve_relativeTo absolute (.absolute base)
      have spelt := relativeTo_absolute target base
      refine ⟨_, _, spelt, by rw [spelt, toBytes], leads, ?_, ?_⟩
      · constructor
        · intro empty
          rw [empty] at leads
          exact leads.symm
        · intro same
          cases same
          have none := distance_self target
          rw [distance] at none
          rw [spelt, toBytes_relative, joinSlashes_eq_nil, way, ← List.length_eq_zero_iff,
            List.length_append, List.length_replicate, List.length_map, List.length_drop]
          exact none
      · intro text unrooted reaches
        rw [resolve, unrooted, if_neg Bool.false_ne_true] at reaches
        rw [List.length_drop]
        exact distance_le_of_leads reaches

namespace Siblings

/-- The file `/s/f`. -/
def file : Path := .absolute [⟨[115], by decide⟩, ⟨[102], by decide⟩]

/-- The directory `/d`. -/
def directory : Path := .absolute [⟨[100], by decide⟩]

/-- A way from one to the other, with a detour. -/
def detour : Bytes := Utf8.ofString "./..//d/../s/f"

end Siblings

/-- Between siblings the way goes through the directory above both, and a detour is no shorter. -/
theorem relativeTo_shortest_siblings :
    isRooted Siblings.detour = false ∧ resolve Siblings.detour Siblings.directory = Siblings.file ∧
      (Siblings.file.relativeTo Siblings.directory).toBytes = Utf8.ofString "../s/f" ∧
      (Siblings.file.relativeTo Siblings.directory).depth ≤ (segments Siblings.detour).length := by
  have unrooted : isRooted Siblings.detour = false := by decide +kernel
  have reaches : resolve Siblings.detour Siblings.directory = Siblings.file := by decide +kernel
  have absolute : Siblings.file.isAbsolute := rfl
  have rooted : Siblings.directory.isAbsolute := rfl
  obtain ⟨climbs, names, way, _, _, _, shortest⟩ := relativeTo_shortest absolute rooted
  refine ⟨unrooted, reaches, by decide +kernel, ?_⟩
  rw [way, depth]
  exact shortest Siblings.detour unrooted reaches

end Path

end StrictFiles
