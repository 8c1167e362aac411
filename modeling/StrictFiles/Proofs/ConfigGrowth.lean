import StrictFiles.Config.Update
import StrictFiles.Proofs.DistinctItems
import StrictFiles.Proofs.PathSpelling
import StrictFiles.Proofs.TreeOutline

/-!
How an update makes a configuration grow: the entries it adds lead to the files that no entry led to,
and the new document declares the old files followed by those.
-/

namespace StrictFiles

namespace Members

theorem get?_put_self (members : Members) (key : String) (value : Json) :
    (members.put key value).get? key = some value := by
  induction members with
  | nil => simp [put, get?]
  | cons member rest ih =>
    obtain ⟨known, old⟩ := member
    rw [put]
    split
    · rename_i here
      simp [get?, here]
    · rename_i elsewhere
      rw [get?, List.lookup_cons, beq_false_of_ne (Ne.symm elsewhere)]
      exact ih

theorem get?_put_of_ne (members : Members) {key other : String} (value : Json)
    (different : other ≠ key) : (members.put key value).get? other = members.get? other := by
  induction members with
  | nil => simpa [put, get?] using different
  | cons member rest ih =>
    obtain ⟨known, old⟩ := member
    rw [put]
    split
    · rename_i here
      rw [get?, get?, List.lookup_cons, List.lookup_cons, here, beq_false_of_ne different]
    · rw [get?, get?, List.lookup_cons, List.lookup_cons]
      split
      · rfl
      · exact ih

end Members

namespace Config

theorem strings?_eq_some {items : List Json} {texts : List String} :
    strings? items = some texts ↔ items = texts.map .string := by
  induction items generalizing texts with
  | nil => cases texts <;> simp [strings?]
  | cons item rest ih =>
    cases item with
    | string text =>
      have read : strings? (.string text :: rest) = (strings? rest).map (text :: ·) := by
        rw [strings?]
        cases strings? rest <;> rfl
      rw [read, Option.map_eq_some_iff]
      constructor
      · rintro ⟨later, behind, rfl⟩
        rw [List.map_cons, ih.mp behind]
      · intro same
        cases texts with
        | nil => cases same
        | cons first later =>
          rw [List.map_cons, List.cons.injEq, Json.string.injEq] at same
          exact ⟨later, ih.mpr same.2, by rw [same.1]⟩
    | _ => cases texts <;> simp [strings?, Json.string?]

theorem listed_strings (directory : Path) (texts : List String) :
    listed directory (texts.map .string) = texts.map (entryPath directory) := by
  rw [listed, List.filterMap_map, ← List.filterMap_eq_map]
  rfl

theorem listed_append (directory : Path) (entries : List Json) (texts : List String) :
    listed directory (entries ++ texts.map .string) =
      listed directory entries ++ texts.map (entryPath directory) := by
  rw [listed, List.filterMap_append, ← listed, ← listed, listed_strings]

/-- A document declares files when its `files` list holds strings only, an absent one counting as an
empty one. -/
theorem declaredIn?_eq_some {directory : Path} {members : Members} {declared : List Path} :
    declaredIn? directory members = some declared ↔
      ∃ texts : List String, entries? members = some (texts.map .string) ∧
        declared = distinct (texts.map (entryPath directory)) := by
  rw [declaredIn?, entries?]
  cases found : members.get? filesKey with
  | none =>
    constructor
    · intro none
      cases none
      exact ⟨[], rfl, rfl⟩
    · rintro ⟨texts, entries, rfl⟩
      rw [Option.some.injEq, eq_comm, List.map_eq_nil_iff] at entries
      rw [entries]
      rfl
  | some value =>
    cases value with
    | array entries =>
      simp only [Option.map_eq_some_iff, strings?_eq_some, Option.some.injEq]
      simp only [eq_comm (b := declared)]
    | _ => simp

/-- The files among `files` that get an entry: those not listed yet, each once. -/
def newFiles (listed files : List Path) : List Path :=
  distinct (files.filter fun file => file ∉ listed)

theorem mem_newFiles {listed files : List Path} {file : Path} :
    file ∈ newFiles listed files ↔ file ∈ files ∧ file ∉ listed := by
  rw [newFiles, mem_distinct, List.mem_filter, decide_eq_true_iff]

theorem newFiles_cons_of_mem {listed : List Path} {file : Path} (known : file ∈ listed)
    (files : List Path) : newFiles listed (file :: files) = newFiles listed files := by
  rw [newFiles, List.filter_cons_of_neg (by simpa using known), newFiles]

theorem newFiles_cons_of_not_mem {listed : List Path} {file : Path} (fresh : file ∉ listed)
    (files : List Path) :
    newFiles listed (file :: files) = file :: newFiles (file :: listed) files := by
  rw [newFiles, List.filter_cons_of_pos (by simpa using fresh), distinct_cons, List.filter_filter,
    newFiles]
  congr 3
  funext other
  simp only [List.mem_cons, not_or, Bool.decide_and]

theorem newFiles_of_fresh {listed files : List Path} (unique : files.Nodup)
    (fresh : ∀ file ∈ files, file ∉ listed) : newFiles listed files = files := by
  rw [newFiles, List.filter_eq_self.mpr (by simpa using fresh), distinct_of_nodup unique]

/-- The entries are the spellings of the ways to the new files, in order. -/
theorem newEntries_ok {directory : Path} {listed files : List Path} {entries : List Json}
    (added : newEntries directory listed files = .ok entries) :
    ∃ texts : List String, entries = texts.map .string ∧
      (newFiles listed files).map (fun file => (file.relativeTo directory).text?) =
        texts.map some := by
  induction files generalizing listed entries with
  | nil =>
    cases added
    exact ⟨[], rfl, rfl⟩
  | cons file rest ih =>
    rw [newEntries] at added
    split at added
    · rename_i known
      rw [newFiles_cons_of_mem known]
      exact ih added
    · rename_i fresh
      dsimp only at added
      split at added
      · cases added
      · rename_i text spelt
        rcases behind : newEntries directory (file :: listed) rest with failure | later
        · rw [behind] at added
          cases added
        · rw [behind] at added
          cases added
          obtain ⟨texts, rfl, spellings⟩ := ih behind
          refine ⟨text :: texts, rfl, ?_⟩
          rw [newFiles_cons_of_not_mem fresh, List.map_cons, List.map_cons, spelt, spellings]

/-- Entries that are spelled as paths which lead to files from a directory lead to them. -/
theorem map_entryPath_of_ways {directory : Path} {way : Path → Path} {files : List Path}
    {texts : List String} (leads : ∀ file ∈ files, Path.resolve (way file).toBytes directory = file)
    (spelt : files.map (fun file => (way file).text?) = texts.map some) :
    texts.map (entryPath directory) = files := by
  induction files generalizing texts with
  | nil =>
    rw [List.map_nil, eq_comm, List.map_eq_nil_iff] at spelt
    rw [spelt, List.map_nil]
  | cons file files ih =>
    cases texts with
    | nil => cases spelt
    | cons text texts =>
      rw [List.map_cons, List.map_cons, List.cons.injEq] at spelt
      rw [List.forall_mem_cons] at leads
      rw [List.map_cons, entryPath, Path.ofString_text? spelt.1, leads.1, ih leads.2 spelt.2]

/-- Entries that are spelled as the ways to files lead to them. -/
theorem map_entryPath_of_spelt {directory : Path} {files : List Path} {texts : List String}
    (absolute : ∀ file ∈ files, file.isAbsolute)
    (spelt : files.map (fun file => (file.relativeTo directory).text?) = texts.map some) :
    texts.map (entryPath directory) = files :=
  map_entryPath_of_ways
    (fun file among => Path.resolve_relativeTo (absolute file among) directory) spelt

theorem newEntries_lead {directory : Path} {listed files : List Path} {entries : List Json}
    (absolute : ∀ file ∈ files, file.isAbsolute)
    (added : newEntries directory listed files = .ok entries) :
    ∃ texts : List String, entries = texts.map .string ∧
      texts.map (entryPath directory) = newFiles listed files := by
  obtain ⟨texts, rfl, spelt⟩ := newEntries_ok added
  exact ⟨texts, rfl, map_entryPath_of_spelt
    (fun file new => absolute file (mem_newFiles.mp new).1) spelt⟩

end Config

end StrictFiles
