import Mathlib
import StrictFiles.Proofs.AtomicUpdate

/-!
Updates one after another. What the first one writes leads back to the files it was given, so the second
one starts where a single update would go on: both come to the same entries, or fail over the same file.
-/

namespace StrictFiles

namespace Members

/-- A value that is already there changes nothing. -/
theorem put_of_get? {members : Members} {key : String} {value : Json}
    (known : members.get? key = some value) : members.put key value = members := by
  induction members with
  | nil => cases known
  | cons first rest ih =>
    obtain ⟨other, old⟩ := first
    rw [get?, List.lookup_cons] at known
    rw [put]
    by_cases here : other = key
    · subst here
      rw [beq_self_eq_true] at known
      cases known
      rw [if_pos rfl]
    · rw [beq_false_of_ne (Ne.symm here)] at known
      rw [if_neg here, ih known]

theorem put_put (members : Members) (key : String) (first second : Json) :
    (members.put key first).put key second = members.put key second := by
  induction members with
  | nil => simp [put]
  | cons member rest ih =>
    obtain ⟨other, old⟩ := member
    rw [put, put]
    by_cases here : other = key
    · rw [if_pos here, if_pos here, put, if_pos here]
    · rw [if_neg here, if_neg here, put, if_neg here, ih]

end Members

namespace FileTree

theorem put_put {tree : FileTree} {place : Location} {old : Entry} (below : place ≠ [])
    (found : tree.entry? place = some old) (first second : Entry) :
    (tree.put place first).put place second = tree.put place second := by
  rw [put_eq_overwrite below (entry?_put_self below found first), put_eq_overwrite below found,
    put_eq_overwrite below found, List.map_map]
  congr 1
  apply List.map_congr_left
  intro known _
  rw [Function.comp_apply]
  by_cases here : known.1 = place
  · rw [if_pos here, if_pos rfl, if_pos here]
  · rw [if_neg here, if_neg here]

/-- The new content of a regular file is put where the path leads. -/
theorem replaceContent_eq_put {tree : FileTree} {path : Path} {place : Location} {file : RegularFile}
    (located : tree.locate path = .ok place) (found : tree.entry? place = some (.file file))
    (bytes : Bytes) :
    place ≠ [] ∧ tree.replaceContent path bytes =
      (tree.put place (.file ⟨file.mode, bytes, none⟩), .ok ()) := by
  have status := status_eq_ok.mpr ⟨place, located, found⟩
  obtain ⟨after, replaced⟩ := replaceContent_of_file status bytes
  obtain ⟨reached, old, leads, below, there, _, rfl⟩ := replaceContent_ok replaced
  have same : place = reached := Except.ok.inj (located.symm.trans leads)
  subst same
  have known : .file file = old := Option.some.inj (found.symm.trans there)
  subst known
  exact ⟨below, replaced⟩

/-- Of several replacements the last one counts. -/
theorem replaceContent_after {tree middle : FileTree} {path : Path} {first : Bytes}
    (replaced : tree.replaceContent path first = (middle, .ok ())) (second : Bytes) :
    middle.replaceContent path second = tree.replaceContent path second := by
  obtain ⟨place, file, located, rewritten⟩ := replaceContent_rewrites replaced
  have reached := (rewritten.lookups path).trans located
  obtain ⟨below, once⟩ := replaceContent_eq_put located rewritten.found first
  obtain ⟨_, last⟩ := replaceContent_eq_put reached rewritten.content second
  obtain ⟨_, direct⟩ := replaceContent_eq_put located rewritten.found second
  have between : middle = tree.put place (.file ⟨file.mode, first, none⟩) :=
    congrArg Prod.fst (replaced.symm.trans once)
  rw [last, direct, between, put_put below rewritten.found]

end FileTree

namespace Config

theorem newFiles_eq_nil {listed files : List Path} (all : ∀ file ∈ files, file ∈ listed) :
    newFiles listed files = [] := by
  rw [newFiles, List.filter_eq_nil_iff.mpr]
  · rfl
  · intro file among
    simpa using all file among

/-- Once entries for files are written, these files are listed. -/
theorem mem_listed_of_spelt {directory : Path} {entries : List Json} {files : List Path}
    {new : List String} (absolute : ∀ file ∈ files, file.isAbsolute)
    (spelt : (newFiles (listed directory entries) files).map
      (fun file => (file.relativeTo directory).text?) = new.map some) (file : Path) :
    file ∈ listed directory (entries ++ new.map .string) ↔ file ∈ files ++ listed directory entries := by
  have lead := map_entryPath_of_spelt (fun file new => absolute file (mem_newFiles.mp new).1) spelt
  rw [listed_append, lead, List.mem_append, List.mem_append, mem_newFiles]
  constructor
  · rintro (known | new)
    · exact .inr known
    · exact .inl new.1
  · rintro (among | known)
    · exact (Classical.em (file ∈ listed directory entries)).imp_right fun fresh => ⟨among, fresh⟩
    · exact .inl known

/-- A grown document takes the same files once more without any new entry. -/
theorem Adds.again {document grown : Json} {directory : Path} {files : List Path} {added : Nat}
    (adds : Adds document directory files grown added) (absolute : ∀ file ∈ files, file.isAbsolute) :
    Adds grown directory files grown 0 := by
  obtain ⟨members, entries, new, _, _, spelt, _, rfl⟩ := adds
  have get := Members.get?_put_self members filesKey (.array (entries ++ new.map .string))
  refine ⟨_, entries ++ new.map .string, [], rfl, entries?_put members _, ?_, rfl, ?_⟩
  · have all : ∀ file ∈ files, file ∈ listed directory (entries ++ new.map .string) :=
      fun file among => (mem_listed_of_spelt absolute spelt file).mpr (List.mem_append_left _ among)
    rw [newFiles_eq_nil all]
    rfl
  · rw [List.map_nil, List.append_nil, Members.put_of_get? get]

section Entries

variable {directory file : Path} {listed : List Path}

theorem newEntries_listed (known : file ∈ listed) (rest : List Path) :
    newEntries directory listed (file :: rest) = newEntries directory listed rest :=
  if_pos known

theorem newEntries_unspelt (fresh : file ∉ listed) (noText : (file.relativeTo directory).text? = none)
    (rest : List Path) :
    newEntries directory listed (file :: rest) = .error (.notText (file.relativeTo directory)) := by
  rw [newEntries, if_neg fresh]
  dsimp only
  rw [noText]

theorem newEntries_spelt (fresh : file ∉ listed) {text : String}
    (spelt : (file.relativeTo directory).text? = some text) (rest : List Path) :
    newEntries directory listed (file :: rest) =
      (newEntries directory (file :: listed) rest).map (.string text :: ·) := by
  rw [newEntries, if_neg fresh]
  dsimp only
  rw [spelt]
  cases newEntries directory (file :: listed) rest <;> rfl

/-- Which entries are new is a matter of what is listed, not of the order or how often. -/
theorem newEntries_congr {known : List Path} (same : ∀ file, file ∈ listed ↔ file ∈ known)
    (files : List Path) : newEntries directory listed files = newEntries directory known files := by
  induction files generalizing listed known with
  | nil => rfl
  | cons file rest ih =>
    have behind : newEntries directory (file :: listed) rest = newEntries directory (file :: known) rest :=
      ih fun other => by rw [List.mem_cons, List.mem_cons, same]
    rw [newEntries, newEntries, behind, ih same]
    simp only [same]

/-- The entries for two lists of files are those for the first, and then those for the second when the
first are listed. -/
theorem newEntries_append (directory : Path) (listed first second : List Path) :
    newEntries directory listed (first ++ second) = (do
      let before ← newEntries directory listed first
      let behind ← newEntries directory (first ++ listed) second
      pure (before ++ behind)) := by
  induction first generalizing listed with
  | nil =>
    change newEntries directory listed second = newEntries directory listed second >>= pure
    cases newEntries directory listed second <;> rfl
  | cons file rest ih =>
    rw [List.cons_append, List.cons_append]
    by_cases known : file ∈ listed
    · have same : ∀ other, other ∈ file :: (rest ++ listed) ↔ other ∈ rest ++ listed := by
        intro other
        rw [List.mem_cons, or_iff_right_of_imp]
        rintro rfl
        exact List.mem_append_right rest known
      rw [newEntries_listed known, newEntries_listed known, ih, newEntries_congr same]
    · have same : ∀ other, other ∈ file :: (rest ++ listed) ↔ other ∈ rest ++ file :: listed := by
        intro other
        rw [List.mem_cons, List.mem_append, List.mem_append, List.mem_cons]
        exact or_left_comm
      cases spelt : (file.relativeTo directory).text? with
      | none =>
        rw [newEntries_unspelt known spelt, newEntries_unspelt known spelt]
        rfl
      | some text =>
        rw [newEntries_spelt known spelt, newEntries_spelt known spelt, ih, newEntries_congr same]
        cases newEntries directory (file :: listed) rest with
        | error failure => rfl
        | ok before => cases newEntries directory (rest ++ file :: listed) second <;> rfl

end Entries

theorem addFiles_of_entries {members : Members} {entries : List Json} {directory : Path}
    {files : List Path} (found : entries? members = some entries) :
    addFiles members directory files =
      (newEntries directory (listed directory entries) files).map fun new =>
        (members.put filesKey (.array (entries ++ new)), new.length) := by
  rw [addFiles, found]
  dsimp only
  cases newEntries directory (listed directory entries) files <;> rfl

theorem addToDocument_object (members : Members) (directory : Path) (files : List Path) :
    addToDocument (.object members) directory files =
      (addFiles members directory files).map fun growth => (.object growth.1, growth.2) := by
  rw [addToDocument]
  dsimp only [Json.members?]
  cases addFiles members directory files <;> rfl

section Append

variable {directory : Path} {first : List Path} (absolute : ∀ file ∈ first, file.isAbsolute)
  (second : List Path)
include absolute

theorem addFiles_append (members : Members) :
    addFiles members directory (first ++ second) = (do
      let (grown, added) ← addFiles members directory first
      let (again, more) ← addFiles grown directory second
      pure (again, added + more)) := by
  cases found : entries? members with
  | none =>
    rw [addFiles, addFiles, found]
    rfl
  | some entries =>
    rw [addFiles_of_entries found, addFiles_of_entries found, newEntries_append]
    cases added : newEntries directory (listed directory entries) first with
    | error failure => rfl
    | ok new =>
      obtain ⟨texts, rfl, spelt⟩ := newEntries_ok added
      have same := mem_listed_of_spelt absolute spelt
      have grown : addFiles (members.put filesKey (.array (entries ++ texts.map .string)))
            directory second =
          (newEntries directory (first ++ listed directory entries) second).map fun more =>
            (members.put filesKey (.array (entries ++ (texts.map .string ++ more))), more.length) := by
        rw [addFiles_of_entries (entries?_put members _), newEntries_congr same]
        simp only [Members.put_put, List.append_assoc]
      simp only [Except.map, bind, Except.bind]
      rw [grown]
      cases newEntries directory (first ++ listed directory entries) second with
      | error failure => rfl
      | ok more => simp only [Except.map, pure, Except.pure, List.length_append]

theorem addToDocument_append (document : Json) :
    addToDocument document directory (first ++ second) = (do
      let (grown, added) ← addToDocument document directory first
      let (again, more) ← addToDocument grown directory second
      pure (again, added + more)) := by
  cases document with
  | object members =>
    rw [addToDocument_object, addToDocument_object, addFiles_append absolute]
    cases addFiles members directory first with
    | error failure => rfl
    | ok growth =>
      obtain ⟨grown, added⟩ := growth
      simp only [Except.map, bind, Except.bind]
      rw [addToDocument_object]
      cases addFiles grown directory second <;> rfl
  | _ => rfl

/-- An update with all the files does what two updates do, one after the other, except that a failure
takes back both of them. -/
theorem update_append {tree middle : FileTree} {path : Path} {document grown : Json} {added : Nat}
    (growth : addToDocument document path.parent first = .ok (grown, added))
    (updated : update tree path document first = (middle, .ok added)) :
    update tree path document (first ++ second) =
      match update middle path grown second with
      | (after, .ok more) => (after, .ok (added + more))
      | (_, .error error) => (tree, .error error) := by
  obtain ⟨written, known, replaced⟩ := update_ok updated
  rw [growth, Except.ok.injEq, Prod.mk.injEq] at known
  obtain ⟨rfl, _⟩ := known
  obtain ⟨target, file, located, rewritten⟩ := FileTree.replaceContent_rewrites replaced
  obtain ⟨before, between⟩ := rewritten.status located
  rw [update, update, updateWith, updateWith, before, between, addToDocument_append absolute, growth]
  simp only [bind, Except.bind]
  cases addToDocument grown path.parent second with
  | error failure => rfl
  | ok growth =>
    obtain ⟨again, more⟩ := growth
    obtain ⟨after, written⟩ :=
      FileTree.replaceContent_of_file before (Utf8.encode (fileText again))
    dsimp only [pure, Except.pure]
    rw [FileTree.replaceContent_after replaced, written]

/-- Adding files in one go or in two comes to the same. To any document the two lists together add what
the first adds and the second then adds to its result, and they fail where one of the two steps does,
with its failure. The same list once more adds nothing. Of the file at a path the same is true, which a
failed second step leaves as it was before the first when both were one. -/
theorem adds_in_one_go (document : Json) :
    (∀ again count, addToDocument document directory (first ++ second) = .ok (again, count) ↔
      ∃ grown added more, addToDocument document directory first = .ok (grown, added) ∧
        addToDocument grown directory second = .ok (again, more) ∧ count = added + more) ∧
    (∀ failure, addToDocument document directory (first ++ second) = .error failure ↔
      addToDocument document directory first = .error failure ∨
        ∃ grown added, addToDocument document directory first = .ok (grown, added) ∧
          addToDocument grown directory second = .error failure) ∧
    ∀ grown added, addToDocument document directory first = .ok (grown, added) →
      addToDocument grown directory first = .ok (grown, 0) ∧
      ∀ tree middle path, path.parent = directory →
        update tree path document first = (middle, .ok added) →
        update tree path document (first ++ second) =
          match update middle path grown second with
          | (after, .ok more) => (after, .ok (added + more))
          | (_, .error error) => (tree, .error error) := by
  refine ⟨?_, ?_, ?_⟩
  · intro again count
    rw [addToDocument_append absolute, bind_eq_ok]
    constructor
    · rintro ⟨⟨grown, added⟩, growth, rest⟩
      obtain ⟨⟨last, more⟩, further, same⟩ := bind_eq_ok.mp rest
      cases same
      exact ⟨grown, added, more, growth, further, rfl⟩
    · rintro ⟨grown, added, more, growth, further, rfl⟩
      exact ⟨(grown, added), growth, bind_eq_ok.mpr ⟨(again, more), further, rfl⟩⟩
  · intro failure
    rw [addToDocument_append absolute, bind_eq_error]
    constructor
    · rintro (failed | ⟨⟨grown, added⟩, growth, rest⟩)
      · exact .inl failed
      · rcases bind_eq_error.mp rest with failed | ⟨_, _, same⟩
        · exact .inr ⟨grown, added, growth, failed⟩
        · cases same
    · rintro (failed | ⟨grown, added, growth, failed⟩)
      · exact .inl failed
      · exact .inr ⟨(grown, added), growth, bind_eq_error.mpr (.inl failed)⟩
  · intro grown added growth
    have adds := (addToDocument_iff.mp growth).again absolute
    refine ⟨addToDocument_iff.mpr adds, ?_⟩
    rintro tree middle path rfl updated
    exact update_append absolute second growth updated

end Append

namespace MixedEntries

/-- A document with an entry that is no string, and one for `/a`. -/
def document : Json := .object [(filesKey, .array [.null, .string "./a"])]

/-- The document with entries for `/b` and, behind it, some other files. -/
def grown (others : List Json) : Json :=
  .object [(filesKey, .array (.null :: .string "./a" :: .string "b" :: others))]

def file (letter : UInt8) (plain : letter ≠ 46 ∧ letter ≠ slash) : Path :=
  .absolute [⟨[letter], by simp [plain.1, plain.2.symm]⟩]

def first : List Path := [file 97 (by decide), file 98 (by decide)]

def second : List Path := [file 98 (by decide), file 99 (by decide)]

/-- The configuration `/d`. -/
def path : Path := file 100 (by decide)

def tree : FileTree := ⟨[(path.names, .file ⟨0o600, [], none⟩)]⟩

end MixedEntries

/-- Of `/a` and `/b` and then `/b` and `/c` only two files are new, in one go or in two. -/
theorem adds_in_one_go_mixedEntries :
    (∀ file ∈ MixedEntries.first, file.isAbsolute) ∧
    addToDocument MixedEntries.document .root MixedEntries.first = .ok (MixedEntries.grown [], 1) ∧
    addToDocument (MixedEntries.grown []) .root MixedEntries.first = .ok (MixedEntries.grown [], 0) ∧
    addToDocument MixedEntries.document .root (MixedEntries.first ++ MixedEntries.second) =
      .ok (MixedEntries.grown [.string "c"], 2) ∧
    ∃ middle after,
      update MixedEntries.tree MixedEntries.path MixedEntries.document MixedEntries.first =
        (middle, .ok 1) ∧
      update middle MixedEntries.path (MixedEntries.grown []) MixedEntries.second = (after, .ok 1) ∧
      update MixedEntries.tree MixedEntries.path MixedEntries.document
        (MixedEntries.first ++ MixedEntries.second) = (after, .ok 2) := by
  have absolute : ∀ file ∈ MixedEntries.first, file.isAbsolute := by
    decide
  have once : addToDocument MixedEntries.document .root MixedEntries.first =
      .ok (MixedEntries.grown [], 1) := by
    cbv
  have further : addToDocument (MixedEntries.grown []) .root MixedEntries.second =
      .ok (MixedEntries.grown [.string "c"], 1) := by
    cbv
  have status : MixedEntries.tree.status MixedEntries.path = .ok (.file ⟨0o600, [], none⟩) := by
    cbv
  obtain ⟨together, _, repeated⟩ := adds_in_one_go absolute MixedEntries.second MixedEntries.document
  have both := (together _ _).mpr ⟨_, 1, 1, once, further, rfl⟩
  obtain ⟨again, files⟩ := repeated _ _ once
  obtain ⟨middle, first⟩ := update_of_file status (addToDocument_iff.mp once)
  obtain ⟨after, whole⟩ := update_of_file status (addToDocument_iff.mp both)
  have steps := files MixedEntries.tree middle MixedEntries.path rfl first
  rw [whole] at steps
  refine ⟨absolute, once, again, both, middle, after, first, ?_, whole⟩
  rcases last : update middle MixedEntries.path (MixedEntries.grown []) MixedEntries.second with
    ⟨left, error | more⟩
  · rw [last] at steps
    cases steps
  · rw [last] at steps
    obtain ⟨rfl, counted⟩ := Prod.mk.inj steps
    have one : more = 1 := by
      have sum := Except.ok.inj counted
      omega
    rw [one]

end Config

end StrictFiles
