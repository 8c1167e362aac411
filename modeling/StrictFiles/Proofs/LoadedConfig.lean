import StrictFiles.Proofs.ConfigGrowth

/-!
What it means that a configuration is loaded, read off the file it is loaded from, and what becomes
of it when files are added.
-/

namespace StrictFiles

namespace FileTree

theorem textOf_eq_ok {entry : Entry} {text : List Char} :
    textOf entry = .ok text ↔ ∃ file, entry = .file file ∧ Utf8.decode file.bytes = .ok text := by
  cases entry with
  | directory mode => simp [textOf, contentOf, bind, Except.bind]
  | link target => simp [textOf, contentOf, bind, Except.bind]
  | file file =>
    simp only [textOf, contentOf, bind, Except.bind, Entry.file.injEq, exists_eq_left']
    cases Utf8.decode file.bytes <;> simp [pure, Except.pure, throw, throwThe, MonadExceptOf.throw]

end FileTree

namespace Config

theorem readDocument_eq_ok {tree : FileTree} {path : Path} {document : Json} :
    readDocument tree path = .ok document ↔
      ∃ file text, tree.status path = .ok (.file file) ∧ Utf8.decode file.bytes = .ok text ∧
        Json.read? text = some document := by
  constructor
  · intro read
    rw [readDocument] at read
    split at read
    · cases read
    · cases read
    rename_i entry status
    split at read
    · cases read
    rename_i text content
    obtain ⟨file, rfl, decoded⟩ := FileTree.textOf_eq_ok.mp content
    split at read
    · cases read
    · rename_i found known
      cases read
      exact ⟨file, text, status, decoded, known⟩
  · rintro ⟨file, text, status, decoded, known⟩
    rw [readDocument, status]
    dsimp only
    rw [FileTree.textOf_eq_ok.mpr ⟨file, rfl, decoded⟩]
    dsimp only
    rw [known]

/-- The configuration that the members of a document at a path make up, when its entries are `texts`. -/
def ofMembers (path : Path) (members : Members) (texts : List String) : Config :=
  { path
    directory := path.parent
    compilerOptions := (members.get? compilerOptionsKey).getD (.object [])
    declared := distinct (texts.map (entryPath path.parent))
    document := .object members }

theorem ofDocument_eq_ok {path : Path} {document : Json} {config : Config} :
    ofDocument path document = .ok config ↔
      ∃ members texts, document = .object members ∧ entries? members = some (texts.map .string) ∧
        config = ofMembers path members texts := by
  rw [ofDocument]
  constructor
  · intro built
    split at built
    · cases built
    rename_i members object
    split at built
    · cases built
    rename_i declared found
    obtain ⟨texts, entries, rfl⟩ := declaredIn?_eq_some.mp found
    cases document <;> cases object
    cases built
    exact ⟨members, texts, rfl, entries, rfl⟩
  · rintro ⟨members, texts, rfl, entries, rfl⟩
    dsimp only [Json.members?]
    rw [declaredIn?_eq_some.mpr ⟨texts, entries, rfl⟩]
    rfl

theorem load_eq_ok {tree : FileTree} {path : Path} {config : Config} :
    load tree path = .ok config ↔
      ∃ members texts, readDocument tree path = .ok (.object members) ∧
        entries? members = some (texts.map .string) ∧ config = ofMembers path members texts := by
  rw [load]
  cases read : readDocument tree path with
  | error failure => simp [bind, Except.bind]
  | ok document =>
    simp only [bind, Except.bind, Except.ok.injEq]
    constructor
    · intro loaded
      split at loaded
      · rename_i found built
        cases loaded
        obtain ⟨members, texts, rfl, entries, rfl⟩ := ofDocument_eq_ok.mp built
        exact ⟨members, texts, rfl, entries, rfl⟩
      · cases loaded
    · rintro ⟨members, texts, rfl, entries, rfl⟩
      rw [ofDocument_eq_ok.mpr ⟨members, texts, rfl, entries, rfl⟩]

/-- Adding files puts their entries behind the old ones. The new entries lead to the files that no
old one leads to. -/
theorem addToDocument_eq_ok {members : Members} {directory : Path} {texts : List String}
    {files : List Path} {document : Json} {count : Nat}
    (entries : entries? members = some (texts.map .string))
    (absolute : ∀ file ∈ files, file.isAbsolute)
    (added : addToDocument (.object members) directory files = .ok (document, count)) :
    ∃ new : List String,
      new.map (entryPath directory) = newFiles (texts.map (entryPath directory)) files ∧
        count = new.length ∧
        document = .object (members.put filesKey (.array ((texts ++ new).map .string))) := by
  rw [addToDocument, Json.members?] at added
  dsimp only at added
  rw [addFiles, entries] at added
  dsimp only at added
  rw [listed_strings] at added
  rcases found : newEntries directory (texts.map (entryPath directory)) files with failure | new
  · rw [found] at added
    cases added
  · rw [found] at added
    cases added
    obtain ⟨new, rfl, lead⟩ := newEntries_lead absolute found
    refine ⟨new, lead, by simp, ?_⟩
    rw [List.map_append]

/-- The configuration that the grown document makes up: what is declared are the old files and then
the new ones, and all else is as before. -/
theorem ofMembers_put (path : Path) (members : Members) {texts new : List String}
    (unique : (new.map (entryPath path.parent)).Nodup)
    (fresh : ∀ file ∈ new.map (entryPath path.parent), file ∉ texts.map (entryPath path.parent)) :
    ofMembers path (members.put filesKey (.array ((texts ++ new).map .string))) (texts ++ new) =
      { ofMembers path members texts with
        declared := (ofMembers path members texts).declared ++ new.map (entryPath path.parent)
        document := .object (members.put filesKey (.array ((texts ++ new).map .string))) } := by
  have options : compilerOptionsKey ≠ filesKey := by decide
  simp only [ofMembers]
  rw [Members.get?_put_of_ne _ _ options, List.map_append, distinct_append_fresh unique fresh]

theorem entries?_put (members : Members) (entries : List Json) :
    entries? (members.put filesKey (.array entries)) = some entries := by
  rw [entries?, Members.get?_put_self]

end Config

end StrictFiles
