import StrictFiles.Proofs.ConfigUpdate

/-!
A document that extends another one: it has the same members, but for entries behind those of its
`files` list, which lead to files that no entry has led to. Extensions of extensions are extensions.
-/

namespace StrictFiles

namespace Members

theorem filter_put (members : Members) (key : String) (value : Json) :
    (members.put key value).filter (fun member => member.1 ≠ key) =
      members.filter fun member => member.1 ≠ key := by
  induction members with
  | nil => simp [put]
  | cons member rest ih =>
    obtain ⟨known, old⟩ := member
    rw [put]
    by_cases here : known = key
    · simp [here]
    · rw [if_neg here, List.filter_cons_of_pos (by simpa using here),
        List.filter_cons_of_pos (by simpa using here), ih]

end Members

namespace Config

/-- The `files` list of a document, an absent one counting as empty. -/
def filesOf? (document : Json) : Option (List Json) :=
  document.members?.bind entries?

/-- The other members of a document, in order. -/
def otherMembers? (document : Json) : Option Members :=
  document.members?.map fun members => members.filter fun member => member.1 ≠ filesKey

/-- The document `later` is `earlier` with the entries `added` behind those it has. They lead to
different files, and to none that an entry leads to already. -/
structure Extends (directory : Path) (earlier : Json) (added : List String) (later : Json) : Prop where
  untouched : added = [] → later = earlier
  others : otherMembers? later = otherMembers? earlier
  entries : filesOf? later = (filesOf? earlier).map (· ++ added.map .string)
  unique : (added.map (entryPath directory)).Nodup
  fresh : ∀ file ∈ added.map (entryPath directory),
    ∃ entries, filesOf? earlier = some entries ∧ file ∉ listed directory entries

theorem Extends.refl (directory : Path) (document : Json) : Extends directory document [] document where
  untouched _ := rfl
  others := rfl
  entries := by cases filesOf? document <;> simp
  unique := List.nodup_nil
  fresh := nofun

theorem Extends.trans {directory : Path} {first middle last : Json} {old new : List String}
    (before : Extends directory first old middle) (after : Extends directory middle new last) :
    Extends directory first (old ++ new) last := by
  have apart (file : Path) (among : file ∈ new.map (entryPath directory)) :
      ∃ entries, filesOf? first = some entries ∧ file ∉ listed directory entries ∧
        file ∉ old.map (entryPath directory) := by
    obtain ⟨known, found, absent⟩ := after.fresh file among
    rw [before.entries, Option.map_eq_some_iff] at found
    obtain ⟨entries, start, rfl⟩ := found
    rw [listed_append, List.mem_append, not_or] at absent
    exact ⟨entries, start, absent⟩
  refine ⟨?_, after.others.trans before.others, ?_, ?_, ?_⟩
  · intro nothing
    obtain ⟨noOld, noNew⟩ := List.append_eq_nil_iff.mp nothing
    rw [after.untouched noNew, before.untouched noOld]
  · rw [after.entries, before.entries, Option.map_map]
    congr 1
    funext entries
    rw [Function.comp_apply, List.append_assoc, List.map_append]
  · rw [List.map_append]
    refine List.nodup_append.mpr ⟨before.unique, after.unique, ?_⟩
    rintro file among other there rfl
    obtain ⟨_, _, _, absent⟩ := apart file there
    exact absent among
  · intro file among
    rw [List.map_append, List.mem_append] at among
    rcases among with early | late
    · exact before.fresh file early
    · obtain ⟨entries, start, absent, _⟩ := apart file late
      exact ⟨entries, start, absent⟩

/-- A document with new entries extends the one it is made from. -/
theorem extends_withEntries {directory : Path} {members : Members} {texts new : List String}
    (entries : entries? members = some (texts.map .string)) (nonempty : new ≠ [])
    (unique : (new.map (entryPath directory)).Nodup)
    (fresh : ∀ file ∈ new.map (entryPath directory), file ∉ texts.map (entryPath directory)) :
    Extends directory (.object members) new (withEntries members (texts ++ new)) where
  untouched nothing := (nonempty nothing).elim
  others := congrArg some (Members.filter_put members filesKey _)
  entries := by
    have before : filesOf? (.object members) = some (texts.map .string) := entries
    have after : filesOf? (withEntries members (texts ++ new)) = some ((texts ++ new).map .string) :=
      entries?_put members ((texts ++ new).map .string)
    rw [before, after, Option.map_some, List.map_append]
  unique := unique
  fresh file among := ⟨_, entries, by rw [listed_strings]; exact fresh file among⟩

end Config

end StrictFiles
