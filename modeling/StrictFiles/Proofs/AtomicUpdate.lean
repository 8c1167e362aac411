import StrictFiles.Proofs.ConfigUpdate
import StrictFiles.Proofs.ReachedPlace

/-!
An update changes all that it should or nothing at all. It succeeds exactly when the path leads to a
file and the document takes the new entries; then the content of that file is what differs, whatever
directories, files and links are around it.
-/

namespace StrictFiles

namespace FileTree

/-- The tree `after` has other content in the file at `target`, and is the same in all else: no mode,
no link and no place is different, so every path leads where it led before. -/
structure Rewritten (tree after : FileTree) (target : Location) (file : RegularFile)
    (bytes : Bytes) : Prop where
  found : tree.entry? target = some (.file file)
  content : after.entry? target = some (.file ⟨file.mode, bytes, none⟩)
  elsewhere : ∀ place, place ≠ target → after.entry? place = tree.entry? place
  places : after.entries.map Prod.fst = tree.entries.map Prod.fst
  lookups : ∀ path, after.locate path = tree.locate path

/-- A successful replacement goes to a regular file: the path is followed through all links, and a
directory is not moved over. -/
theorem replaceContent_rewrites {tree after : FileTree} {path : Path} {bytes : Bytes}
    (replaced : tree.replaceContent path bytes = (after, .ok ())) :
    ∃ target file, tree.locate path = .ok target ∧ Rewritten tree after target file bytes := by
  obtain ⟨target, old, located, below, found, noDirectory, rfl⟩ := replaceContent_ok replaced
  obtain ⟨known, there, noLink⟩ := (stands_of_locate located).entry
  rw [found, Option.some.injEq] at there
  subst there
  cases old with
  | directory mode => simp [isDirectoryAt, found] at noDirectory
  | link goal => exact (noLink goal rfl).elim
  | file file =>
    have same := sameOutline_put below found ⟨file.mode, bytes, none⟩
    exact ⟨target, file, located, found, entry?_put_self below found _,
      fun place elsewhere => entry?_put_of_ne below found _ elsewhere, same.places,
      same.sameKinds.locate⟩

/-- The path of a replaced content leads to a file, before and after. -/
theorem Rewritten.status {tree after : FileTree} {target : Location} {file : RegularFile} {bytes : Bytes}
    (rewritten : Rewritten tree after target file bytes) {path : Path}
    (located : tree.locate path = .ok target) :
    tree.status path = .ok (.file file) ∧ after.status path = .ok (.file ⟨file.mode, bytes, none⟩) :=
  ⟨status_eq_ok.mpr ⟨target, located, rewritten.found⟩,
    status_eq_ok.mpr ⟨target, (rewritten.lookups path).trans located, rewritten.content⟩⟩

/-- What has more than two bytes and no slash is a name. -/
theorem exists_name {bytes : Bytes} (long : 2 < bytes.length) (plain : slash ∉ bytes) :
    ∃ name, Name.ofBytes? bytes = some name := by
  have other {short : Bytes} (bound : short.length ≤ 2) : bytes ≠ short := by
    rintro rfl
    omega
  have all : bytes ≠ [] ∧ bytes ≠ [46] ∧ bytes ≠ [46, 46] ∧ slash ∉ bytes :=
    ⟨other (by simp), other (by simp), other (by simp), plain⟩
  exact ⟨⟨bytes, all⟩, dif_pos all⟩

/-- In a directory there is always a place for a temporary file. -/
theorem createTemporary_of_directory {tree : FileTree} {directory : Location} {start ending : String}
    (long : 2 < (Utf8.ofString start).length)
    (plain : slash ∉ Utf8.ofString start ++ Utf8.ofString ending)
    (there : tree.isDirectoryAt directory = true) (bytes : Bytes) :
    ∃ staged place, tree.createTemporary directory start ending bytes = .ok (staged, place) := by
  have spelt (stars : Nat) : ∃ name, Name.ofBytes?
      (Utf8.ofString start ++ List.replicate stars 42 ++ Utf8.ofString ending) = some name := by
    rw [List.mem_append, not_or] at plain
    have noStar : slash ∉ List.replicate stars 42 := by simp [slash, List.mem_replicate]
    apply exists_name
    · rw [List.length_append, List.length_append]
      omega
    · simp [plain, noStar]
  have fresh : ∃ name, tree.freshName? directory start ending = some name := by
    obtain ⟨short, known⟩ := spelt 1
    rw [freshName?]
    dsimp only
    rw [known]
    dsimp only
    split
    · exact spelt _
    · exact ⟨short, rfl⟩
  obtain ⟨name, known⟩ := fresh
  rw [createTemporary, there, known]
  exact ⟨_, _, rfl⟩

/-- The content of a regular file can always be replaced: there is a directory for the new file beside
it, and nothing in its place that could not be moved over. -/
theorem replaceContent_of_file {tree : FileTree} {path : Path} {file : RegularFile}
    (status : tree.status path = .ok (.file file)) (bytes : Bytes) :
    ∃ after, tree.replaceContent path bytes = (after, .ok ()) := by
  obtain ⟨target, located, found⟩ := status_eq_ok.mp status
  have start : 2 < (Utf8.ofString ".tmp").length := by decide +kernel
  have plain : slash ∉ Utf8.ofString ".tmp" ++ Utf8.ofString "" := by decide +kernel
  obtain ⟨staged, place, created⟩ := createTemporary_of_directory start plain
    (stands_of_locate located).isDirectoryAt_dropLast bytes
  obtain ⟨below, vacant, rfl⟩ := createTemporary_ok created
  rw [replaceContent, located]
  dsimp only
  rw [found]
  dsimp only
  rw [created]
  dsimp only
  rw [setMode_concat below vacant, rename, entry?_concat_self below vacant, isDirectoryAt,
    entry?_concat_of_found found]
  exact ⟨_, rfl⟩

end FileTree

namespace Config

/-- `grown` is the object `document` with `added` new entries behind the old ones, spelled as the ways
from `directory` to those of `files` that no entry leads to, each once and in order. All of these ways
are texts. -/
def Adds (document : Json) (directory : Path) (files : List Path) (grown : Json) (added : Nat) :
    Prop :=
  ∃ (members : Members) (entries : List Json) (new : List String),
    document = .object members ∧ entries? members = some entries ∧
    (newFiles (listed directory entries) files).map (fun file => (file.relativeTo directory).text?) =
      new.map some ∧
    added = new.length ∧
    grown = .object (members.put filesKey (.array (entries ++ new.map .string)))

/-- To a document with an entry for each text, the new entries come behind these. -/
theorem Adds.of_strings {members : Members} {directory : Path} {texts : List String}
    {files : List Path} {grown : Json} {added : Nat}
    (adds : Adds (.object members) directory files grown added)
    (entries : entries? members = some (texts.map .string)) :
    ∃ new : List String,
      (newFiles (texts.map (entryPath directory)) files).map
        (fun file => (file.relativeTo directory).text?) = new.map some ∧
      added = new.length ∧ grown = withEntries members (texts ++ new) := by
  obtain ⟨_, _, new, same, known, spelt, counted, rfl⟩ := adds
  cases same
  rw [entries, Option.some.injEq] at known
  subst known
  rw [listed_strings] at spelt
  refine ⟨new, spelt, counted, ?_⟩
  rw [withEntries, List.map_append]

theorem newEntries_of_spelt {directory : Path} {listed files : List Path} {texts : List String}
    (spelt : (newFiles listed files).map (fun file => (file.relativeTo directory).text?) =
      texts.map some) :
    newEntries directory listed files = .ok (texts.map .string) := by
  induction files generalizing listed texts with
  | nil =>
    rw [newFiles, List.filter_nil, distinct, List.foldl_nil, List.map_nil, eq_comm,
      List.map_eq_nil_iff] at spelt
    rw [spelt]
    rfl
  | cons file rest ih =>
    rw [newEntries]
    split
    · rename_i known
      rw [newFiles_cons_of_mem known] at spelt
      exact ih spelt
    · rename_i fresh
      rw [newFiles_cons_of_not_mem fresh] at spelt
      cases texts with
      | nil => cases spelt
      | cons text texts =>
        rw [List.map_cons, List.map_cons, List.cons.injEq] at spelt
        dsimp only
        rw [spelt.1, ih spelt.2]
        rfl

theorem addToDocument_iff {document : Json} {directory : Path} {files : List Path} {grown : Json}
    {added : Nat} :
    addToDocument document directory files = .ok (grown, added) ↔
      Adds document directory files grown added := by
  constructor
  · intro grows
    rw [addToDocument] at grows
    cases document with
    | object members =>
      dsimp only [Json.members?] at grows
      rw [addFiles] at grows
      cases found : entries? members with
      | none =>
        rw [found] at grows
        cases grows
      | some entries =>
        rw [found] at grows
        dsimp only at grows
        rcases fresh : newEntries directory (listed directory entries) files with failure | new
        · rw [fresh] at grows
          cases grows
        · rw [fresh] at grows
          cases grows
          obtain ⟨texts, rfl, spelt⟩ := newEntries_ok fresh
          exact ⟨members, entries, texts, rfl, found, spelt, by simp, rfl⟩
    | _ => cases grows
  · rintro ⟨members, entries, new, rfl, found, spelt, rfl, rfl⟩
    rw [addToDocument]
    dsimp only [Json.members?]
    rw [addFiles, found]
    dsimp only
    rw [newEntries_of_spelt spelt]
    simp [bind, Except.bind, pure, Except.pure]

/-- An update writes what it was asked to when the path leads to a file and the document takes the
entries. -/
theorem update_of_file {tree : FileTree} {path : Path} {document grown : Json} {files : List Path}
    {file : RegularFile} {added : Nat} (status : tree.status path = .ok (.file file))
    (adds : Adds document path.parent files grown added) :
    ∃ after, update tree path document files = (after, .ok added) := by
  obtain ⟨after, replaced⟩ :=
    FileTree.replaceContent_of_file status (Utf8.encode (fileText grown))
  rw [update, updateWith, status]
  dsimp only
  rw [addToDocument_iff.mpr adds]
  dsimp only
  rw [replaced]
  exact ⟨after, rfl⟩

/-- A successful update replaces the content of the file that the path leads to by the grown
document. -/
theorem update_rewrites {tree after : FileTree} {path : Path} {document : Json} {files : List Path}
    {added : Nat} (updated : update tree path document files = (after, .ok added)) :
    ∃ grown target file, Adds document path.parent files grown added ∧
      tree.locate path = .ok target ∧
      FileTree.Rewritten tree after target file (Utf8.encode (fileText grown)) := by
  obtain ⟨grown, growth, replaced⟩ := update_ok updated
  obtain ⟨target, file, located, rewritten⟩ := FileTree.replaceContent_rewrites replaced
  exact ⟨grown, target, file, addToDocument_iff.mp growth, located, rewritten⟩

/-- On every tree, for every path, document and list of files: an update fails and the tree is the one
from before, or it succeeds and the tree differs only in the content of the file that the path leads to
through all links, which is the text of the grown document. It succeeds exactly when there is such a
file and the document takes the entries. -/
theorem update_atomic (tree : FileTree) (path : Path) (document : Json) (files : List Path) :
    ((∃ error, update tree path document files = (tree, .error error)) ∨
      ∃ after grown added target file, update tree path document files = (after, .ok added) ∧
        Adds document path.parent files grown added ∧ tree.locate path = .ok target ∧
        FileTree.Rewritten tree after target file (Utf8.encode (fileText grown))) ∧
    ((∃ added, (update tree path document files).2 = .ok added) ↔
      (∃ file, tree.status path = .ok (.file file)) ∧
        ∃ grown added, Adds document path.parent files grown added) := by
  rcases update_cases tree path document files with ⟨error, failed⟩ | ⟨_, added, after, _, _, updated⟩
  · refine ⟨.inl ⟨error, failed⟩, ?_⟩
    rw [failed]
    constructor
    · rintro ⟨added, succeeded⟩
      cases succeeded
    · rintro ⟨⟨file, status⟩, grown, added, adds⟩
      obtain ⟨after, updated⟩ := update_of_file status adds
      rw [failed] at updated
      cases updated
  · obtain ⟨grown, target, file, adds, located, rewritten⟩ := update_rewrites updated
    have status := FileTree.status_eq_ok.mpr ⟨target, located, rewritten.found⟩
    refine ⟨.inr ⟨after, grown, added, target, file, updated, adds, located, rewritten⟩, ?_⟩
    rw [updated]
    exact iff_of_true ⟨added, rfl⟩ ⟨⟨file, status⟩, grown, added, adds⟩

end Config

end StrictFiles
