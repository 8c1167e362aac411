import Mathlib.Data.List.Forall2
import StrictFiles.Proofs.LoadedConfig
import StrictFiles.Proofs.MergedEntries
import StrictFiles.Proofs.ReachedPlace
import StrictFiles.Proofs.Utf8RoundTrip

/-!
Which files are configurations, said of the tree and the document alone, and what is loaded from one.
When a path leads to none, the failure names the first thing that is wrong on the way: the path does
not open, what it opens is no text, the text is no document, the document is no object, or the object
declares something other than a list of texts.
-/

namespace StrictFiles

namespace Utf8

theorem decode_eq_ok {bytes : Bytes} {text : List Char} :
    decode bytes = .ok text ↔ bytes = encode text := by
  constructor
  · intro read
    exact (encode_of_charsOf read).symm
  · rintro rfl
    exact decode_encode text

end Utf8

namespace FileTree

/-- A path leads to a file that holds a text. -/
def HoldsText (tree : FileTree) (path : Path) (text : List Char) : Prop :=
  ∃ file, tree.status path = .ok (.file file) ∧ file.bytes = Utf8.encode text

/-- What opens and still gives no text: a directory, or a file whose bytes spell none. -/
inductive Unreadable : Entry → SystemError → Prop
  | directory (mode : Nat) : Unreadable (.directory mode) .isADirectory
  | noText {file : RegularFile} (broken : ∀ text, file.bytes ≠ Utf8.encode text) :
      Unreadable (.file file) .notText

section Opened

variable {tree : FileTree} {path : Path} {entry : Entry}

/-- What a path opens is never a link, as all of them are followed. -/
theorem status_noLink (opened : tree.status path = .ok entry) (target : Bytes) :
    entry ≠ .link target := by
  obtain ⟨place, located, found⟩ := status_eq_ok.mp opened
  obtain ⟨standing, there, noLink⟩ := (stands_of_locate located).entry
  rw [found] at there
  cases there
  exact noLink target

theorem textOf_of_text {file : RegularFile} {text : List Char}
    (spelt : file.bytes = Utf8.encode text) : textOf (.file file) = .ok text :=
  textOf_eq_ok.mpr ⟨file, rfl, Utf8.decode_eq_ok.mpr spelt⟩

theorem textOf_eq_error {cause : SystemError} (noLink : ∀ target, entry ≠ .link target) :
    textOf entry = .error cause ↔ Unreadable entry cause := by
  constructor
  · intro failed
    cases entry with
    | directory mode =>
      cases failed
      exact .directory mode
    | link target => exact (noLink target rfl).elim
    | file file =>
      have broken : ∀ text, file.bytes ≠ Utf8.encode text := by
        intro text spelt
        rw [textOf_of_text spelt] at failed
        cases failed
      cases decoded : Utf8.decode file.bytes with
      | ok text => exact (broken text (Utf8.decode_eq_ok.mp decoded)).elim
      | error fault =>
        simp only [textOf, contentOf, bind, Except.bind, decoded] at failed
        cases failed
        exact .noText broken
  · intro unreadable
    cases unreadable with
    | directory mode => rfl
    | @noText file broken =>
      cases decoded : Utf8.decode file.bytes with
      | ok text => exact (broken text (Utf8.decode_eq_ok.mp decoded)).elim
      | error fault =>
        simp only [textOf, contentOf, bind, Except.bind, decoded]
        rfl

end Opened

end FileTree

namespace Config

/-- A path leads to a file that holds the text of a document. -/
def HoldsDocument (tree : FileTree) (path : Path) (document : Json) : Prop :=
  ∃ text, tree.HoldsText path text ∧ Json.read? text = some document

/-- A path leads to a configuration: to an object whose entries are the texts `texts`. -/
structure WellFormed (tree : FileTree) (path : Path) (members : Members) (texts : List String) :
    Prop where
  document : HoldsDocument tree path (.object members)
  entries : HasEntries members (texts.map .string)

/-- The first thing that is wrong on the way to a configuration. Each condition says that those before
it hold and that the next one does not. -/
def FirstFault (tree : FileTree) (path : Path) : LoadFailure → Prop
  | .notFound => tree.status path = .error .notFound
  | .notOpened cause => tree.status path = .error cause ∧ cause ≠ .notFound
  | .notRead cause => ∃ entry, tree.status path = .ok entry ∧ FileTree.Unreadable entry cause
  | .notParsed => ∃ text, tree.HoldsText path text ∧ Json.read? text = none
  | .notAnObject => ∃ document, HoldsDocument tree path document ∧ document.members? = none
  | .invalidFiles => ∃ members, HoldsDocument tree path (.object members) ∧
      ∀ texts : List String, ¬ HasEntries members (texts.map .string)

/-- What is loaded from an object whose entries are the texts `texts`. -/
structure LoadedFrom (path : Path) (members : Members) (texts : List String) (config : Config) :
    Prop where
  place : config.path = path
  directory : config.directory = path.parent
  document : config.document = .object members
  /-- Where the entries lead from the directory of the configuration, each file at its first place. -/
  declared : config.declared = (texts.map (entryPath path.parent)).eraseDups
  /-- The options stand in the document as they are loaded; an object without any gives empty ones. -/
  options : config.compilerOptions = (members.get? compilerOptionsKey).getD (.object [])
  inherited : config.inherited? = members.get? extendsKey

section Accepted

variable {tree : FileTree} {path : Path}

theorem holdsDocument_iff {document : Json} :
    HoldsDocument tree path document ↔ readDocument tree path = .ok document := by
  rw [readDocument_eq_ok]
  constructor
  · rintro ⟨text, ⟨file, opened, spelt⟩, parsed⟩
    exact ⟨file, text, opened, Utf8.decode_eq_ok.mpr spelt, parsed⟩
  · rintro ⟨file, text, opened, decoded, parsed⟩
    exact ⟨text, ⟨file, opened, Utf8.decode_eq_ok.mp decoded⟩, parsed⟩

/-- Which list is declared depends on where the entries lead, not on how they are spelled. -/
theorem LoadedFrom.declared_congr {other : Path} {members otherMembers : Members}
    {texts otherTexts : List String} {config otherConfig : Config}
    (made : LoadedFrom path members texts config)
    (otherMade : LoadedFrom other otherMembers otherTexts otherConfig)
    (beside : other.parent = path.parent)
    (pairwise : List.Forall₂ (fun text otherText =>
      entryPath path.parent text = entryPath path.parent otherText) texts otherTexts) :
    otherConfig.declared = config.declared := by
  have lead : texts.map (entryPath path.parent) = otherTexts.map (entryPath path.parent) := by
    rw [← List.forall₂_eq_eq_eq, List.forall₂_map_left_iff, List.forall₂_map_right_iff]
    exact pairwise
  rw [made.declared, otherMade.declared, beside, lead]

theorem ofMembers_loadedFrom (path : Path) (members : Members) (texts : List String) :
    LoadedFrom path members texts (ofMembers path members texts) where
  place := rfl
  directory := rfl
  document := rfl
  declared := distinct_eq_eraseDups _
  options := rfl
  inherited := rfl

theorem load_of_wellFormed {members : Members} {texts : List String}
    (wellFormed : WellFormed tree path members texts) :
    load tree path = .ok (ofMembers path members texts) :=
  load_eq_ok.mpr ⟨members, texts, holdsDocument_iff.mp wellFormed.document,
    entries?_eq_some.mpr wellFormed.entries, rfl⟩

theorem loadedFrom_of_wellFormed {members : Members} {texts : List String} {config : Config}
    (wellFormed : WellFormed tree path members texts) (loaded : load tree path = .ok config) :
    LoadedFrom path members texts config := by
  rw [load_of_wellFormed wellFormed] at loaded
  cases loaded
  exact ofMembers_loadedFrom path members texts

theorem wellFormed_of_load {config : Config} (loaded : load tree path = .ok config) :
    ∃ members texts, WellFormed tree path members texts := by
  obtain ⟨members, texts, read, entries, _⟩ := load_eq_ok.mp loaded
  exact ⟨members, texts, holdsDocument_iff.mpr read, entries?_eq_some.mp entries⟩

end Accepted

section Refused

variable {tree : FileTree} {path : Path} {failure : LoadFailure}

theorem load_eq_error :
    load tree path = .error ⟨path, failure⟩ ↔
      (readDocument tree path >>= ofDocument path) = .error failure := by
  rw [load]
  cases readDocument tree path >>= ofDocument path <;> simp

theorem path_of_load_error {error : LoadError} (failed : load tree path = .error error) :
    error.path = path := by
  rw [load] at failed
  split at failed <;> cases failed
  rfl

theorem firstFault_of_readDocument (failed : readDocument tree path = .error failure) :
    FirstFault tree path failure := by
  rw [readDocument] at failed
  split at failed
  · rename_i absent
    cases failed
    exact absent
  · rename_i cause refused other
    cases failed
    refine ⟨other, ?_⟩
    rintro rfl
    exact refused rfl
  rename_i entry opened
  split at failed
  · rename_i cause unreadable
    cases failed
    exact ⟨entry, opened, (FileTree.textOf_eq_error (FileTree.status_noLink opened)).mp unreadable⟩
  rename_i text content
  split at failed
  · rename_i parsed
    cases failed
    obtain ⟨file, rfl, decoded⟩ := FileTree.textOf_eq_ok.mp content
    exact ⟨text, ⟨file, opened, Utf8.decode_eq_ok.mp decoded⟩, parsed⟩
  · cases failed

theorem firstFault_of_ofDocument {document : Json} (read : readDocument tree path = .ok document)
    (failed : ofDocument path document = .error failure) : FirstFault tree path failure := by
  have held := holdsDocument_iff.mpr read
  rw [ofDocument] at failed
  split at failed
  · rename_i noObject
    cases failed
    exact ⟨document, held, noObject⟩
  rename_i members object
  split at failed
  · rename_i undeclared
    cases failed
    cases document <;> cases object
    refine ⟨members, held, fun texts entries => ?_⟩
    rw [declaredIn?_eq_some.mpr ⟨texts, entries?_eq_some.mpr entries, rfl⟩] at undeclared
    cases undeclared
  · cases failed

theorem readDocument_of_firstFault (fault : FirstFault tree path failure)
    (early : failure ≠ .notAnObject ∧ failure ≠ .invalidFiles) :
    readDocument tree path = .error failure := by
  rw [readDocument]
  cases failure with
  | notFound =>
    have refused : tree.status path = .error .notFound := fault
    rw [refused]
  | notOpened cause =>
    obtain ⟨refused, other⟩ := fault
    rw [refused]
    cases cause <;> first | exact (other rfl).elim | rfl
  | notRead cause =>
    obtain ⟨entry, opened, unreadable⟩ := fault
    rw [opened]
    dsimp only
    rw [(FileTree.textOf_eq_error (FileTree.status_noLink opened)).mpr unreadable]
  | notParsed =>
    obtain ⟨text, ⟨file, opened, spelt⟩, parsed⟩ := fault
    rw [opened]
    dsimp only
    rw [FileTree.textOf_of_text spelt]
    dsimp only
    rw [parsed]
  | notAnObject => exact (early.1 rfl).elim
  | invalidFiles => exact (early.2 rfl).elim

/-- The failure of a load is the first thing that is wrong, and nothing else. -/
theorem load_eq_error_iff_firstFault :
    load tree path = .error ⟨path, failure⟩ ↔ FirstFault tree path failure := by
  rw [load_eq_error, bind_eq_error]
  constructor
  · rintro (failed | ⟨document, read, failed⟩)
    · exact firstFault_of_readDocument failed
    · exact firstFault_of_ofDocument read failed
  · intro fault
    cases failure with
    | notAnObject =>
      obtain ⟨document, held, noObject⟩ := fault
      refine .inr ⟨document, holdsDocument_iff.mp held, ?_⟩
      rw [ofDocument, noObject]
    | invalidFiles =>
      obtain ⟨members, held, noTexts⟩ := fault
      refine .inr ⟨.object members, holdsDocument_iff.mp held, ?_⟩
      have undeclared : declaredIn? path.parent members = none := by
        refine Option.eq_none_iff_forall_ne_some.mpr fun declared found => ?_
        obtain ⟨texts, entries, _⟩ := declaredIn?_eq_some.mp found
        exact noTexts texts (entries?_eq_some.mp entries)
      rw [ofDocument, Json.members?]
      dsimp only
      rw [undeclared]
    | _ => exact .inl (readDocument_of_firstFault fault (by simp))

end Refused

/-- Loading accepts the well-formed configurations and no other path. What is loaded is what the
document says, so two configurations beside each other whose entries lead pairwise to the same files
declare the same list, in whatever spelling. What is not accepted fails with the first thing that is
wrong. -/
theorem load_accepts_wellFormed (tree : FileTree) (path : Path) :
    ((∃ config, load tree path = .ok config) ↔
      ∃ members texts, WellFormed tree path members texts) ∧
    (∀ config, load tree path = .ok config → ∀ members texts, WellFormed tree path members texts →
      LoadedFrom path members texts config) ∧
    (∀ config, load tree path = .ok config → ∀ members texts, WellFormed tree path members texts →
      ∀ (otherTree : FileTree) (other : Path) (otherConfig : Config),
        load otherTree other = .ok otherConfig →
      ∀ otherMembers otherTexts, WellFormed otherTree other otherMembers otherTexts →
        other.parent = path.parent →
        List.Forall₂ (fun text otherText =>
          entryPath path.parent text = entryPath path.parent otherText) texts otherTexts →
        otherConfig.declared = config.declared) ∧
    (∀ error, load tree path = .error error → error.path = path) ∧
    ∀ failure, load tree path = .error ⟨path, failure⟩ ↔ FirstFault tree path failure := by
  refine ⟨⟨?_, ?_⟩, fun config loaded members texts wellFormed =>
    loadedFrom_of_wellFormed wellFormed loaded, ?_, fun error => path_of_load_error,
    fun failure => load_eq_error_iff_firstFault⟩
  · rintro ⟨config, loaded⟩
    exact wellFormed_of_load loaded
  · rintro ⟨members, texts, wellFormed⟩
    exact ⟨_, load_of_wellFormed wellFormed⟩
  · intro config loaded members texts wellFormed otherTree other otherConfig otherLoaded
      otherMembers otherTexts otherWellFormed beside pairwise
    exact (loadedFrom_of_wellFormed wellFormed loaded).declared_congr
      (loadedFrom_of_wellFormed otherWellFormed otherLoaded) beside pairwise

end Config

end StrictFiles
