import StrictFiles.Tree.Edit

/-!
What replacing the content of a file leaves. The file beside it has a name that nothing in its
directory has, so taking it away again leaves what was there before; when all goes well the tree
differs at the file alone.
-/

namespace StrictFiles

namespace FileTree

/-- Nothing is at a location. -/
def IsVacant (tree : FileTree) (place : Location) : Prop :=
  ∀ known ∈ tree.entries, known.1 ≠ place

theorem IsVacant.any_eq_false {tree : FileTree} {place : Location} (vacant : tree.IsVacant place) :
    (tree.entries.any fun known => known.1 = place) = false := by
  rw [List.any_eq_false]
  intro known member
  simpa using vacant known member

theorem IsVacant.put {tree : FileTree} {place : Location} (vacant : tree.IsVacant place)
    (entry : Entry) : tree.put place entry = ⟨tree.entries ++ [(place, entry)]⟩ := by
  rw [FileTree.put, if_neg (by simp [vacant.any_eq_false])]

theorem IsVacant.overwrite {tree : FileTree} {place : Location} (vacant : tree.IsVacant place)
    (entry : Entry) :
    (tree.entries.map fun known => if known.1 = place then (place, entry) else known) =
      tree.entries := by
  conv => rhs; rw [← List.map_id tree.entries]
  apply List.map_congr_left
  intro known member
  rw [if_neg (vacant known member), id]

theorem IsVacant.overwritten {tree : FileTree} {place target : Location}
    (vacant : tree.IsVacant place) (elsewhere : place ≠ target) (entry : Entry) :
    IsVacant ⟨tree.entries.map fun known => if known.1 = target then (target, entry) else known⟩
      place := by
  intro known member
  obtain ⟨before, was, rfl⟩ := List.mem_map.mp member
  split
  · exact Ne.symm elsewhere
  · exact vacant before was

theorem IsVacant.lookup {tree : FileTree} {place : Location} (vacant : tree.IsVacant place) :
    tree.entries.lookup place = none := by
  rw [List.lookup_eq_none_iff]
  intro known member
  simpa using Ne.symm (vacant known member)

theorem lookup_overwrite_self {entries : List (Location × Entry)} {place : Location}
    (present : (entries.lookup place).isSome) (entry : Entry) :
    (entries.map fun known => if known.1 = place then (place, entry) else known).lookup place =
      some entry := by
  induction entries with
  | nil => simp at present
  | cons known entries ih =>
    rw [List.lookup_cons] at present
    by_cases here : known.1 = place
    · simp [here]
    · have elsewhere : (place == known.1) = false := by simpa using Ne.symm here
      rw [elsewhere] at present
      rw [List.map_cons, if_neg here, List.lookup_cons, elsewhere]
      exact ih present

theorem lookup_overwrite_of_ne {entries : List (Location × Entry)} {place other : Location}
    (different : other ≠ place) (entry : Entry) :
    (entries.map fun known => if known.1 = place then (place, entry) else known).lookup other =
      entries.lookup other := by
  induction entries with
  | nil => rfl
  | cons known entries ih =>
    rw [List.map_cons, List.lookup_cons, List.lookup_cons, ih]
    by_cases here : known.1 = place
    · rw [if_pos here, here, beq_false_of_ne different]
    · rw [if_neg here]

theorem any_of_found {tree : FileTree} {place : Location} {entry : Entry} (below : place ≠ [])
    (found : tree.entry? place = some entry) :
    (tree.entries.any fun known => known.1 = place) = true := by
  rw [FileTree.entry?, if_neg below] at found
  by_cases vacant : tree.IsVacant place
  · rw [vacant.lookup] at found
    cases found
  · simpa [IsVacant] using vacant

theorem put_eq_overwrite {tree : FileTree} {place : Location} {old : Entry} (below : place ≠ [])
    (found : tree.entry? place = some old) (entry : Entry) :
    tree.put place entry =
      ⟨tree.entries.map fun known => if known.1 = place then (place, entry) else known⟩ := by
  rw [put, if_pos (any_of_found below found)]

/-- The entry that was put in the place of another is found there. -/
theorem entry?_put_self {tree : FileTree} {place : Location} {old : Entry} (below : place ≠ [])
    (found : tree.entry? place = some old) (entry : Entry) :
    FileTree.entry? (tree.put place entry) place = some entry := by
  rw [put_eq_overwrite below found, entry?, if_neg below]
  apply lookup_overwrite_self
  rw [FileTree.entry?, if_neg below] at found
  rw [found, Option.isSome_some]

theorem entry?_put_of_ne {tree : FileTree} {place other : Location} {old : Entry}
    (below : place ≠ []) (found : tree.entry? place = some old) (entry : Entry)
    (different : other ≠ place) : FileTree.entry? (tree.put place entry) other = tree.entry? other := by
  rw [put_eq_overwrite below found, entry?, entry?]
  split
  · rfl
  · exact lookup_overwrite_of_ne different entry

theorem mem_namesIn {tree : FileTree} {directory : Location} {name : Name} {entry : Entry}
    (member : (directory ++ [name], entry) ∈ tree.entries) : name ∈ tree.namesIn directory := by
  refine List.mem_filterMap.mpr ⟨_, member, ?_⟩
  simp

theorem isVacant_of_unused {tree : FileTree} {directory : Location} {name : Name}
    (unused : name ∉ tree.namesIn directory) : tree.IsVacant (directory ++ [name]) := by
  rintro ⟨place, entry⟩ member rfl
  exact unused (mem_namesIn member)

theorem length_le_longest (names : List Name) (least : Nat) :
    least ≤ names.foldl (fun n known => max n known.bytes.length) least ∧
      ∀ name ∈ names, name.bytes.length ≤
        names.foldl (fun n known => max n known.bytes.length) least := by
  induction names generalizing least with
  | nil => simp
  | cons first names ih =>
    obtain ⟨start, rest⟩ := ih (max least first.bytes.length)
    rw [List.foldl_cons]
    refine ⟨by omega, ?_⟩
    intro name member
    rcases List.mem_cons.mp member with rfl | later
    · omega
    · exact rest name later

theorem bytes_of_ofBytes? {bytes : Bytes} {name : Name} (read : Name.ofBytes? bytes = some name) :
    name.bytes = bytes := by
  rw [Name.ofBytes?] at read
  split at read
  · cases read
    rfl
  · cases read

/-- A fresh name is the name of nothing in the directory: either its short form is not in use, or it
is longer than every name there. -/
theorem freshName?_unused {tree : FileTree} {directory : Location} {start ending : String}
    {name : Name} (fresh : tree.freshName? directory start ending = some name) :
    name ∉ tree.namesIn directory := by
  rw [freshName?] at fresh
  dsimp only at fresh
  split at fresh
  · rename_i short _
    split at fresh
    · intro member
      have spelled := congrArg List.length (bytes_of_ofBytes? fresh)
      simp only [List.length_append, List.length_replicate] at spelled
      have bound := (length_le_longest (tree.namesIn directory) 0).2 name member
      omega
    · cases fresh
      assumption
  · cases fresh

/-- Behind all entries a new one is found where nothing was. -/
theorem entry?_concat_self {tree : FileTree} {place : Location} (below : place ≠ [])
    (vacant : tree.IsVacant place) (entry : Entry) :
    entry? ⟨tree.entries ++ [(place, entry)]⟩ place = some entry := by
  rw [FileTree.entry?, if_neg below, List.lookup_append, vacant.lookup]
  simp

theorem entry?_concat_of_found {tree : FileTree} {other : Location} {old : Entry}
    (found : tree.entry? other = some old) (place : Location) (entry : Entry) :
    entry? ⟨tree.entries ++ [(place, entry)]⟩ other = some old := by
  rw [FileTree.entry?] at found ⊢
  split
  · rename_i root
    rwa [if_pos root] at found
  · rename_i inside
    rw [if_neg inside] at found
    rw [List.lookup_append, found, Option.some_or]

theorem entry?_concat_of_ne {tree : FileTree} {place other : Location} (different : other ≠ place)
    (entry : Entry) : entry? ⟨tree.entries ++ [(place, entry)]⟩ other = tree.entry? other := by
  rw [FileTree.entry?, FileTree.entry?, List.lookup_append, List.lookup_cons,
    beq_false_of_ne different, List.lookup_nil, Option.or_none]

theorem setMode_concat {tree : FileTree} {place : Location} (below : place ≠ [])
    (vacant : tree.IsVacant place) (file : RegularFile) (mode : Nat) :
    setMode ⟨tree.entries ++ [(place, .file file)]⟩ place mode =
      ⟨tree.entries ++ [(place, .file { file with mode })]⟩ := by
  have found := entry?_concat_self below vacant (.file file)
  rw [setMode, found]
  dsimp only
  rw [put_eq_overwrite below found, List.map_append, vacant.overwrite]
  simp

/-- A new file is put behind all entries, at a place that was vacant. -/
theorem createTemporary_ok {tree staged : FileTree} {directory place : Location}
    {start ending : String} {bytes : Bytes}
    (created : tree.createTemporary directory start ending bytes = .ok (staged, place)) :
    place ≠ [] ∧ tree.IsVacant place ∧
      staged = ⟨tree.entries ++ [(place, .file ⟨0o600, bytes, none⟩)]⟩ := by
  rw [createTemporary] at created
  split at created
  · cases created
  · split at created
    · rename_i name fresh
      cases created
      have vacant := isVacant_of_unused (freshName?_unused fresh)
      exact ⟨by simp, vacant, vacant.put _⟩
    · cases created

theorem erase_concat {tree : FileTree} {place : Location} (vacant : tree.IsVacant place)
    (entry : Entry) : erase ⟨tree.entries ++ [(place, entry)]⟩ place = tree := by
  rw [erase, List.filter_append, List.filter_cons_of_neg (by simp), List.filter_nil,
    List.append_nil, List.filter_eq_self.mpr]
  intro known member
  simpa using vacant known member

/-- Moving a new file over an old one is the same as putting it there at once. -/
theorem rename_concat {tree replaced : FileTree} {place target : Location} {old entry : Entry}
    (below : place ≠ []) (vacant : tree.IsVacant place) (found : tree.entry? target = some old)
    (moved : rename ⟨tree.entries ++ [(place, entry)]⟩ place target = .ok replaced) :
    target ≠ [] ∧ tree.isDirectoryAt target = false ∧ replaced = tree.put target entry := by
  rw [rename, entry?_concat_self below vacant] at moved
  split at moved
  · cases moved
  · cases moved
  · rename_i here same noDirectory
    cases same
    cases moved
    have inside : target ≠ [] := by
      rintro rfl
      simp [isDirectoryAt, entry?] at noDirectory
    have elsewhere : place ≠ target := by
      rintro rfl
      rw [FileTree.entry?, if_neg below, vacant.lookup] at found
      cases found
    have kept := entry?_concat_of_found found place entry
    refine ⟨inside, ?_, ?_⟩
    · rw [isDirectoryAt, kept] at noDirectory
      rw [isDirectoryAt, found]
      exact noDirectory
    · rw [put_eq_overwrite inside kept, put_eq_overwrite inside found, List.map_append, List.map_cons,
        List.map_nil, if_neg elsewhere]
      exact erase_concat (vacant.overwritten elsewhere entry) entry

/-- What replacing the content of a file does, when it goes well: the entry that the path leads to is
a file with the new content and the mode from before, and nothing else is different. -/
theorem replaceContent_ok {tree after : FileTree} {path : Path} {bytes : Bytes}
    (replaced : tree.replaceContent path bytes = (after, .ok ())) :
    ∃ target old, tree.locate path = .ok target ∧ target ≠ [] ∧ tree.entry? target = some old ∧
      tree.isDirectoryAt target = false ∧
      after = tree.put target (.file ⟨modeOf old, bytes, none⟩) := by
  rw [replaceContent] at replaced
  split at replaced
  · cases replaced
  rename_i target located
  split at replaced
  · cases replaced
  rename_i old found
  split at replaced
  · cases replaced
  rename_i staged temporary created
  obtain ⟨below, vacant, rfl⟩ := createTemporary_ok created
  rw [setMode_concat below vacant] at replaced
  dsimp only at replaced
  split at replaced
  · rename_i moved
    cases replaced
    obtain ⟨inside, noDirectory, same⟩ := rename_concat below vacant found moved
    exact ⟨target, old, located, inside, found, noDirectory, same⟩
  · cases replaced

/-- When the content is not replaced, nothing is left of the attempt. -/
theorem replaceContent_error {tree after : FileTree} {path : Path} {bytes : Bytes}
    {cause : SystemError} (failed : tree.replaceContent path bytes = (after, .error cause)) :
    after = tree := by
  rw [replaceContent] at failed
  split at failed
  · cases failed
    rfl
  split at failed
  · cases failed
    rfl
  split at failed
  · cases failed
    rfl
  rename_i staged temporary created
  obtain ⟨below, vacant, rfl⟩ := createTemporary_ok created
  rw [setMode_concat below vacant] at failed
  dsimp only at failed
  split at failed
  · cases failed
  · cases failed
    exact erase_concat vacant _

end FileTree

end StrictFiles
