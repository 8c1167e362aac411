import Mathlib.Data.List.Induction
import Mathlib.Data.List.Nodup
import StrictFiles.Distinct

/-!
What is left of a list without its repetitions. Lists are taken apart at their last item, since the
items before it already settle whether it stays.
-/

namespace StrictFiles

variable {α : Type} [DecidableEq α]

theorem distinct_concat (items : List α) (item : α) :
    distinct (items ++ [item]) =
      if item ∈ distinct items then distinct items else distinct items ++ [item] := by
  unfold distinct
  rw [List.foldl_append, List.foldl_cons, List.foldl_nil]

@[simp]
theorem mem_distinct {items : List α} {item : α} : item ∈ distinct items ↔ item ∈ items := by
  induction items using List.reverseRecOn with
  | nil => simp [distinct]
  | append_singleton items last ih =>
    rw [distinct_concat]
    split
    · rename_i known
      rw [ih, List.mem_append, List.mem_singleton]
      constructor
      · exact Or.inl
      · rintro (before | rfl)
        · exact before
        · rwa [← ih]
    · simp only [List.mem_append, List.mem_singleton, ih]

theorem distinct_nodup (items : List α) : (distinct items).Nodup := by
  induction items using List.reverseRecOn with
  | nil => exact .nil
  | append_singleton items last ih =>
    rw [distinct_concat]
    split
    · exact ih
    · rename_i fresh
      refine List.nodup_append.mpr ⟨ih, List.nodup_singleton last, ?_⟩
      intro item member other atLast same
      rw [List.mem_singleton] at atLast
      exact fresh (by rwa [← atLast, ← same])

theorem distinct_of_nodup {items : List α} (unique : items.Nodup) : distinct items = items := by
  induction items using List.reverseRecOn with
  | nil => rfl
  | append_singleton items last ih =>
    obtain ⟨before, _, apart⟩ := List.nodup_append.mp unique
    have fresh : last ∉ distinct items := by
      rw [mem_distinct]
      exact fun member => apart last member last (List.mem_singleton_self last) rfl
    rw [distinct_concat, if_neg fresh, ih before]

theorem distinct_filter (keep : α → Bool) (items : List α) :
    distinct (items.filter keep) = (distinct items).filter keep := by
  induction items using List.reverseRecOn with
  | nil => rfl
  | append_singleton items last ih =>
    rw [List.filter_append, distinct_concat]
    cases kept : keep last with
    | false =>
      rw [List.filter_cons_of_neg (by simp [kept]), List.filter_nil, List.append_nil, ih]
      split
      · rfl
      · simp [kept]
    | true =>
      rw [List.filter_cons_of_pos kept, List.filter_nil, distinct_concat, ih]
      simp only [List.mem_filter, kept, and_true]
      split
      · rfl
      · simp [kept]

/-- Behind `first` only the items count that are not in it. -/
theorem distinct_append (first second : List α) :
    distinct (first ++ second) =
      distinct first ++ distinct (second.filter fun item => item ∉ first) := by
  induction second using List.reverseRecOn with
  | nil => simp [distinct]
  | append_singleton second last ih =>
    rw [← List.append_assoc, distinct_concat, ih, List.filter_append]
    by_cases old : last ∈ first
    · rw [List.filter_cons_of_neg (by simp [old]), List.filter_nil, List.append_nil,
        if_pos (by simp [old])]
    · rw [List.filter_cons_of_pos (by simp [old]), List.filter_nil, distinct_concat]
      by_cases seen : last ∈ second
      · rw [if_pos (by simp [old, seen]), if_pos (by simp [old, seen])]
      · rw [if_neg (by simp [old, seen]), if_neg (by simp [seen]), List.append_assoc]

/-- Fresh items without repetitions all stay, behind the ones before. -/
theorem distinct_append_fresh {first second : List α} (unique : second.Nodup)
    (fresh : ∀ item ∈ second, item ∉ first) :
    distinct (first ++ second) = distinct first ++ second := by
  have all : (second.filter fun item => item ∉ first) = second := by
    rw [List.filter_eq_self]
    intro item member
    simpa using fresh item member
  rw [distinct_append, all, distinct_of_nodup unique]

theorem distinct_cons (item : α) (items : List α) :
    distinct (item :: items) = item :: distinct (items.filter fun other => other ≠ item) := by
  have split := distinct_append [item] items
  simpa [distinct] using split

/-- Each item stays at its first place. -/
theorem distinct_eq_eraseDups (items : List α) : distinct items = items.eraseDups := by
  cases items with
  | nil => rfl
  | cons item rest =>
    have shorter := List.length_filter_le (fun other => other ≠ item) rest
    have keep : (fun other => !other == item) = fun other => decide (other ≠ item) := by
      funext other
      by_cases same : other = item <;> simp [same]
    rw [distinct_cons, List.eraseDups_cons, keep, distinct_eq_eraseDups (rest.filter _)]
  termination_by items.length
  decreasing_by
    subst items
    exact Nat.lt_succ_of_le shorter

end StrictFiles
