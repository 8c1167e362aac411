import StrictFiles.Proofs.FallibleSteps
import StrictFiles.Proofs.LoadedConfig

/-!
What an update does to the file tree: it puts the grown document into the configuration file, or it
fails and leaves everything as it was.
-/

namespace StrictFiles

namespace Config

/-- An update that does not succeed leaves the tree alone. One that does has replaced the content of
the configuration file by the grown document. -/
theorem update_cases (tree : FileTree) (path : Path) (document : Json) (files : List Path) :
    (∃ error, update tree path document files = (tree, .error error)) ∨
      ∃ grown added after, addToDocument document path.parent files = .ok (grown, added) ∧
        tree.replaceContent path (Utf8.encode (fileText grown)) = (after, .ok ()) ∧
        update tree path document files = (after, .ok added) := by
  rw [update, updateWith]
  cases tree.status path with
  | error cause => cases cause <;> exact .inl ⟨_, rfl⟩
  | ok entry =>
    cases addToDocument document path.parent files with
    | error failure => exact .inl ⟨_, rfl⟩
    | ok growth =>
      obtain ⟨grown, added⟩ := growth
      dsimp only
      rcases replaced : tree.replaceContent path (Utf8.encode (fileText grown)) with ⟨after, cause | _⟩
      · have unchanged := FileTree.replaceContent_error replaced
        subst unchanged
        exact .inl ⟨_, rfl⟩
      · exact .inr ⟨grown, added, after, rfl, replaced, rfl⟩

theorem update_error {tree after : FileTree} {path : Path} {document : Json} {files : List Path}
    {error : UpdateError} (failed : update tree path document files = (after, .error error)) :
    after = tree := by
  rcases update_cases tree path document files with ⟨_, known⟩ | ⟨_, _, _, _, _, known⟩
  · rw [failed] at known
    cases known
    rfl
  · rw [failed] at known
    cases known

theorem update_ok {tree after : FileTree} {path : Path} {document : Json} {files : List Path}
    {added : Nat} (updated : update tree path document files = (after, .ok added)) :
    ∃ grown, addToDocument document path.parent files = .ok (grown, added) ∧
      tree.replaceContent path (Utf8.encode (fileText grown)) = (after, .ok ()) := by
  rcases update_cases tree path document files with ⟨_, known⟩ | ⟨grown, _, _, growth, replaced, known⟩
  · rw [updated] at known
    cases known
  · rw [updated] at known
    cases known
    exact ⟨grown, growth, replaced⟩

/-- The members with these entries in the `files` list. -/
def withEntries (members : Members) (texts : List String) : Json :=
  .object (members.put filesKey (.array (texts.map .string)))

/-- The document is an object with these entries in its `files` list. -/
def Lists (document : Json) (texts : List String) : Prop :=
  ∃ members, document = .object members ∧ entries? members = some (texts.map .string)

theorem lists_withEntries (members : Members) (texts : List String) :
    Lists (withEntries members texts) texts :=
  ⟨_, rfl, entries?_put members (texts.map .string)⟩

/-- The document that the file at a path holds: the one it reads as, or the one it was printed from. -/
inductive Holds (tree : FileTree) (path : Path) (document : Json) : Prop
  | read (known : readDocument tree path = .ok document)
  | printed (text : tree.readText path = .ok (fileText document))

/-- What a file reads as is what its text spells. -/
theorem readDocument_of_text {tree : FileTree} {path : Path} {text : List Char}
    (known : tree.readText path = .ok text) :
    readDocument tree path = (Json.read? text).elim (.error .notParsed) .ok := by
  obtain ⟨entry, status, content⟩ := bind_eq_ok.mp known
  rw [readDocument, status]
  dsimp only
  rw [content]
  dsimp only
  cases Json.read? text <;> rfl

theorem readDocument_eq_ok_iff_text {tree : FileTree} {path : Path} {document : Json} :
    readDocument tree path = .ok document ↔
      ∃ text, tree.readText path = .ok text ∧ Json.read? text = some document := by
  constructor
  · intro read
    obtain ⟨file, text, status, decoded, known⟩ := readDocument_eq_ok.mp read
    refine ⟨text, ?_, known⟩
    rw [FileTree.readText, status]
    exact FileTree.textOf_eq_ok.mpr ⟨file, rfl, decoded⟩
  · rintro ⟨text, content, known⟩
    rw [readDocument_of_text content, known, Option.elim_some]

theorem readDocument_of_printed {tree : FileTree} {path : Path} {document : Json}
    (text : tree.readText path = .ok (fileText document))
    (readsBack : Json.read? (fileText document) = some document) :
    readDocument tree path = .ok document := by
  rw [readDocument_of_text text, readsBack, Option.elim_some]

/-- Files that no entry leads to yet are added one by one: entry by entry the new ones lead to them,
and the file holds the old document with these behind its entries. -/
theorem update_grows {tree after : FileTree} {path : Path} {members : Members} {texts : List String}
    {files : List Path} {added : Nat}
    (read : readDocument tree path = .ok (.object members))
    (entries : entries? members = some (texts.map .string))
    (absolute : ∀ file ∈ files, file.isAbsolute) (unique : files.Nodup)
    (fresh : ∀ file ∈ files, file ∉ texts.map (entryPath path.parent))
    (updated : update tree path (.object members) files = (after, .ok added)) :
    ∃ new : List String, new.map (entryPath path.parent) = files ∧
      addToDocument (.object members) path.parent files =
        .ok (withEntries members (texts ++ new), added) ∧
      FileTree.SameOutline tree after ∧
      after.readText path = .ok (fileText (withEntries members (texts ++ new))) := by
  obtain ⟨grown, growth, replaced⟩ := update_ok updated
  obtain ⟨new, lead, _, rfl⟩ := addToDocument_eq_ok entries absolute growth
  rw [newFiles_of_fresh unique fresh] at lead
  obtain ⟨file, _, status, _, _⟩ := readDocument_eq_ok.mp read
  obtain ⟨same, content⟩ := FileTree.replaceContent_file status replaced
  refine ⟨new, lead, growth, same, ?_⟩
  rw [FileTree.readText, content]
  exact FileTree.textOf_eq_ok.mpr ⟨_, rfl, Utf8.decode_encode _⟩

end Config

end StrictFiles
