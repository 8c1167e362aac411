import StrictFiles.Proofs.DocumentValues
import StrictFiles.Proofs.ExtendedDocument
import StrictFiles.Proofs.RepeatedUpdate

/-!
Adding files to a document changes nothing but its `files` list, and that list only behind the entries
it had. When files are refused, it is for the kind of the document or for a file that no text leads to.
-/

namespace StrictFiles

namespace Config

/-- The entries of an object: those of its `files` list, or none when it has no such key. -/
def HasEntries (members : Members) (entries : List Json) : Prop :=
  members.get? filesKey = none ∧ entries = [] ∨ members.get? filesKey = some (.array entries)

theorem entries?_eq_some {members : Members} {entries : List Json} :
    entries? members = some entries ↔ HasEntries members entries := by
  rw [entries?, HasEntries]
  cases members.get? filesKey with
  | none => simp [eq_comm]
  | some value => cases value <;> simp

theorem entries?_eq_none {members : Members} :
    entries? members = none ↔
      ∃ value, members.get? filesKey = some value ∧ ∀ entries, value ≠ .array entries := by
  rw [entries?]
  cases members.get? filesKey with
  | none => simp
  | some value => cases value <;> simp

theorem mem_listed {directory : Path} {entries : List Json} {file : Path} :
    file ∈ listed directory entries ↔
      ∃ text, .string text ∈ entries ∧ entryPath directory text = file := by
  rw [listed, List.mem_filterMap]
  constructor
  · rintro ⟨entry, among, leads⟩
    cases entry with
    | string text => exact ⟨text, among, Option.some.inj leads⟩
    | _ => cases leads
  · rintro ⟨text, among, rfl⟩
    exact ⟨.string text, among, rfl⟩

/-- The files that no entry leads to, each at its first place. -/
def unlisted (directory : Path) (entries : List Json) (files : List Path) : List Path :=
  (files.filter fun file => file ∉ listed directory entries).eraseDups

theorem newFiles_eq_unlisted (directory : Path) (entries : List Json) (files : List Path) :
    newFiles (listed directory entries) files = unlisted directory entries files :=
  distinct_eq_eraseDups _

/-- The first new file that no text leads to is the one that is refused. -/
theorem newEntries_eq_error {directory : Path} {listed files : List Path} {failure : UpdateFailure} :
    newEntries directory listed files = .error failure ↔
      ∃ file, (newFiles listed files).find? (fun file => (file.relativeTo directory).text?.isNone) =
        some file ∧ failure = .notText (file.relativeTo directory) := by
  induction files generalizing listed with
  | nil =>
    constructor
    · intro failed
      cases failed
    · rintro ⟨file, found, _⟩
      cases found
  | cons file rest ih =>
    by_cases known : file ∈ listed
    · rw [newEntries_listed known, newFiles_cons_of_mem known, ih]
    · rw [newFiles_cons_of_not_mem known]
      cases spelt : (file.relativeTo directory).text? with
      | none =>
        rw [newEntries_unspelt known spelt, List.find?_cons_of_pos (by simp [spelt])]
        simp [eq_comm]
      | some text =>
        rw [newEntries_spelt known spelt, List.find?_cons_of_neg (by simp [spelt]), ← ih]
        cases newEntries directory (file :: listed) rest <;> simp [Except.map]

theorem addToDocument_eq_error {members : Members} {entries : List Json} {directory : Path}
    {files : List Path} (held : HasEntries members entries) :
    (∃ failure, addToDocument (.object members) directory files = .error failure) ↔
      ∃ file ∈ files, file ∉ listed directory entries ∧ (file.relativeTo directory).text? = none := by
  have refused : (∃ failure, addToDocument (.object members) directory files = .error failure) ↔
      ∃ failure, newEntries directory (listed directory entries) files = .error failure := by
    rw [addToDocument_object, addFiles_of_entries (entries?_eq_some.mpr held)]
    cases newEntries directory (listed directory entries) files <;> simp [Except.map]
  rw [refused]
  constructor
  · rintro ⟨failure, failed⟩
    obtain ⟨file, found, _⟩ := newEntries_eq_error.mp failed
    obtain ⟨among, fresh⟩ := mem_newFiles.mp (List.mem_of_find?_eq_some found)
    exact ⟨file, among, fresh, by simpa using List.find?_some found⟩
  · rintro ⟨file, among, fresh, noText⟩
    have offends : (file.relativeTo directory).text?.isNone := by
      rw [noText, Option.isNone_none]
    have isFound : ((newFiles (listed directory entries) files).find?
        fun file => (file.relativeTo directory).text?.isNone).isSome :=
      List.find?_isSome.mpr ⟨file, mem_newFiles.mpr ⟨among, fresh⟩, offends⟩
    obtain ⟨first, found⟩ := Option.isSome_iff_exists.mp isFound
    exact ⟨_, newEntries_eq_error.mpr ⟨first, found, rfl⟩⟩

/-- What `grown` is to `members` with the entries `new` behind its `entries`. -/
structure Merged (directory : Path) (members : Members) (entries : List Json) (files : List Path)
    (grown : Members) (new : List String) : Prop where
  /-- Every key keeps its place; a `files` key that was not there comes last. -/
  keys : grown.map Prod.fst =
    if filesKey ∈ members.map Prod.fst then members.map Prod.fst
    else members.map Prod.fst ++ [filesKey]
  others : grown.filter (fun member => member.1 ≠ filesKey) =
    members.filter fun member => member.1 ≠ filesKey
  list : grown.get? filesKey = some (.array (entries ++ new.map .string))
  spelt : new.map some =
    (unlisted directory entries files).map fun file => (file.relativeTo directory).text?
  reached : ∀ file ∈ files,
    ∃ text, .string text ∈ entries ++ new.map .string ∧ entryPath directory text = file

theorem Adds.merged {members grown : Members} {entries : List Json} {directory : Path}
    {files : List Path} {added : Nat} (held : HasEntries members entries)
    (absolute : ∀ file ∈ files, file.isAbsolute)
    (adds : Adds (.object members) directory files (.object grown) added) :
    ∃ new, added = new.length ∧ Merged directory members entries files grown new := by
  obtain ⟨_, _, new, same, found, spelt, counted, grows⟩ := adds
  cases same
  cases grows
  rw [entries?_eq_some.mpr held, Option.some.injEq] at found
  subst found
  refine ⟨new, counted, Members.keys_put members filesKey _, Members.filter_put members filesKey _,
    Members.get?_put_self members filesKey _, ?_, ?_⟩
  · rw [← newFiles_eq_unlisted, spelt]
  · intro file among
    exact mem_listed.mp ((mem_listed_of_spelt absolute spelt file).mpr
      (List.mem_append_left _ among))

/-- Files that are added to an object change its `files` list and nothing else: the old entries stay,
and behind them come the ways to the files that no entry leads to, each once and in order, so that
every file is reached by an entry. Files are refused exactly when the document is no object, its `files`
are no list, or the way to a file that no entry leads to is no text. -/
theorem merge_changes_files_only (directory : Path) {files : List Path}
    (absolute : ∀ file ∈ files, file.isAbsolute) :
    (∀ members entries, HasEntries members entries →
      (∀ file ∈ files, file ∉ listed directory entries →
        (file.relativeTo directory).text?.isSome) →
      ∃ grown new, addToDocument (.object members) directory files =
          .ok (.object grown, new.length) ∧
        Merged directory members entries files grown new) ∧
    ∀ document, (∃ failure, addToDocument document directory files = .error failure) ↔
      (∀ members, document ≠ .object members) ∨
      ∃ members : Members, document = .object members ∧
        ((∃ value, members.get? filesKey = some value ∧ ∀ entries, value ≠ .array entries) ∨
          ∃ entries, HasEntries members entries ∧ ∃ file ∈ files,
            file ∉ listed directory entries ∧ (file.relativeTo directory).text? = none) := by
  refine ⟨?_, ?_⟩
  · intro members entries held spelt
    cases outcome : addToDocument (.object members) directory files with
    | error failure =>
      obtain ⟨file, among, fresh, noText⟩ := (addToDocument_eq_error held).mp ⟨failure, outcome⟩
      have text := spelt file among fresh
      rw [noText] at text
      cases text
    | ok growth =>
      obtain ⟨document, added⟩ := growth
      have adds := addToDocument_iff.mp outcome
      obtain ⟨_, _, _, _, _, _, _, object⟩ := id adds
      subst object
      obtain ⟨new, rfl, merged⟩ := adds.merged held absolute
      exact ⟨_, new, rfl, merged⟩
  · intro document
    cases document with
    | object members =>
      cases found : entries? members with
      | none =>
        have noList := entries?_eq_none.mp found
        have refused : addToDocument (.object members) directory files = .error .invalidFiles := by
          rw [addToDocument_object, addFiles, found]
          rfl
        exact iff_of_true ⟨_, refused⟩ (.inr ⟨members, rfl, .inl noList⟩)
      | some entries =>
        have held := entries?_eq_some.mp found
        rw [addToDocument_eq_error held]
        constructor
        · intro offending
          exact .inr ⟨members, rfl, .inr ⟨entries, held, offending⟩⟩
        · rintro (noObject | ⟨_, same, noList | ⟨_, known, offending⟩⟩)
          · exact (noObject members rfl).elim
          · cases same
            rw [entries?_eq_none.mpr noList] at found
            cases found
          · cases same
            rw [entries?_eq_some.mpr known] at found
            cases found
            exact offending
    | _ =>
      refine iff_of_true ⟨.notAnObject, rfl⟩ (.inl ?_)
      intro members same
      cases same

/-- Of `/a`, `/b`, `/b` and `/c` the first is listed as `./a`, behind an entry that is no string, and
the two others are new. A document that is no object refuses them. -/
theorem merge_changes_files_only_mixedEntries :
    let files := MixedEntries.first ++ MixedEntries.second
    (∃ grown, addToDocument MixedEntries.document .root files = .ok (.object grown, 2) ∧
      Merged .root [(filesKey, .array [.null, .string "./a"])] [.null, .string "./a"] files grown
        ["b", "c"]) ∧
      ∃ failure, addToDocument .null .root files = .error failure := by
  intro files
  have absolute : ∀ file ∈ files, file.isAbsolute := by
    decide
  obtain ⟨merges, refuses⟩ := merge_changes_files_only .root absolute
  have spelt : ∀ file ∈ files, (file.relativeTo .root).text?.isSome := by
    rw [← List.all_eq_true]
    subst files
    cbv
  have noObject : ∀ members, Json.null ≠ .object members := by
    intro members same
    cases same
  refine ⟨?_, (refuses .null).mpr (.inl noObject)⟩
  obtain ⟨grown, new, grows, merged⟩ := merges [(filesKey, .array [.null, .string "./a"])]
    [.null, .string "./a"] (.inr rfl) fun file among _ => spelt file among
  have known : new.map some = ["b", "c"].map some := by
    rw [merged.spelt]
    subst files
    cbv
  rw [List.map_inj_right fun _ _ => Option.some.inj] at known
  subst known
  exact ⟨grown, grows, merged⟩

end Config

end StrictFiles
