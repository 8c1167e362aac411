import Mathlib.Data.List.Lex
import StrictFiles.Path.Order
import StrictFiles.Proofs.DistinctItems

/-!
The order of paths is a linear one, and a set of paths has one sorted list: ascending, without
repetitions, and the same from whatever list of the paths it is made.
-/

namespace StrictFiles

theorem Part.key_injective : Function.Injective Part.key := by
  intro part other same
  cases part <;> cases other <;> try cases same
  · rfl
  · rfl
  · rename_i name other
    rw [Part.key, Part.key, List.cons.injEq] at same
    have bytes := List.map_injective_iff.mpr (fun _ _ => UInt8.toNat_inj.mp) same.2
    cases name
    cases other
    cases bytes
    rfl

namespace Path

theorem parts_injective : Function.Injective Path.parts := by
  intro path other same
  have names {n m : List Name} (same : n.map Part.name = m.map Part.name) : n = m :=
    List.map_injective_iff.mpr (fun _ _ => Part.name.inj) same
  -- A root is a part of absolute paths only; climbs are counted by the parts that are one.
  have noRoot (climbs : Nat) (n : List Name) :
      Part.root ∉ List.replicate climbs Part.up ++ n.map Part.name := by simp
  have climbs (climbs : Nat) (n : List Name) :
      (List.replicate climbs Part.up ++ n.map Part.name).count Part.up = climbs := by
    rw [List.count_append, List.count_replicate_self, Nat.add_eq_left, List.count_eq_zero]
    simp
  cases path with
  | absolute n =>
    cases other with
    | absolute m => rw [names (List.cons.inj same).2]
    | relative k m =>
      rw [parts, parts] at same
      exact (noRoot k m (same ▸ List.mem_cons_self)).elim
  | relative k n =>
    cases other with
    | absolute m =>
      rw [parts, parts] at same
      exact (noRoot k n (same ▸ List.mem_cons_self)).elim
    | relative l m =>
      have level : k = l := by
        rw [← climbs k n, ← climbs l m]
        exact congrArg (List.count Part.up) same
      subst level
      rw [names (List.append_cancel_left same)]

theorem key_injective : Function.Injective key := fun _ _ same =>
  parts_injective (List.map_injective_iff.mpr Part.key_injective same)

/-- A path comes strictly before another one: part by part, names by their bytes. -/
def Before (a b : Path) : Prop :=
  a.key < b.key

theorem le_iff {a b : Path} : le a b = true ↔ a.key ≤ b.key := by
  have ofParts : (fun part other : List Nat => part.lex other fun m n => m < n) =
      fun part other => decide (part < other) := by
    funext part other
    rw [List.lex_eq_decide_lex]
    simp only [decide_eq_true_eq]
    exact decide_eq_decide.mpr Iff.rfl
  have ofKeys : ¬ b.key < a.key ↔ a.key ≤ b.key := not_lt
  rw [le, ofParts, List.lex_eq_decide_lex, Bool.not_eq_true', decide_eq_false_iff_not]
  simp only [decide_eq_true_eq]
  exact ofKeys

theorem le_trans (a b c : Path) (first : le a b = true) (second : le b c = true) : le a c = true :=
  le_iff.mpr ((le_iff.mp first).trans (le_iff.mp second))

theorem le_total (a b : Path) : (le a b || le b a) = true := by
  rw [Bool.or_eq_true, le_iff, le_iff]
  exact Std.le_total

theorem le_antisymm (a b : Path) (first : le a b = true) (second : le b a = true) : a = b :=
  key_injective ((le_iff.mp first).antisymm (le_iff.mp second))

theorem before_iff {a b : Path} : a.Before b ↔ le a b = true ∧ a ≠ b := by
  rw [le_iff, Before, lt_iff_le_and_ne, ne_eq, key_injective.eq_iff]

theorem mem_sort {paths : List Path} {path : Path} : path ∈ sort paths ↔ path ∈ paths :=
  List.mem_mergeSort

theorem sort_ascending (paths : List Path) : (sort paths).Pairwise fun a b => le a b = true :=
  List.pairwise_mergeSort le_trans le_total paths

theorem sort_distinct_before (paths : List Path) : (sort (distinct paths)).Pairwise Before := by
  have unique : (sort (distinct paths)).Pairwise (· ≠ ·) :=
    (List.mergeSort_perm _ _).nodup_iff.mpr (distinct_nodup paths)
  exact (sort_ascending _).imp₂ (fun _ _ below differ => before_iff.mpr ⟨below, differ⟩) unique

/-- Ascending lists of the same paths are the same list. -/
theorem eq_of_before {paths others : List Path} (ascending : paths.Pairwise Before)
    (otherAscending : others.Pairwise Before) (same : ∀ path, path ∈ paths ↔ path ∈ others) :
    paths = others := by
  have differ {list : List Path} (ascending : list.Pairwise Before) : list.Nodup :=
    ascending.imp fun before => (before_iff.mp before).2
  have perm : paths.Perm others :=
    (List.perm_ext_iff_of_nodup (differ ascending) (differ otherAscending)).mpr same
  refine perm.eq_of_pairwise (fun a b _ _ => ?_) ascending otherAscending
  exact fun first second => (lt_asymm first second).elim

end Path

end StrictFiles
