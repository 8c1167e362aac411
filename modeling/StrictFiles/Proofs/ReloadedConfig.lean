import Mathlib
import StrictFiles.Proofs.PreparedRun
import StrictFiles.Proofs.ReadDocument
import StrictFiles.Proofs.RepeatedUpdate
import StrictFiles.Proofs.SoundReading

/-!
An updated configuration, loaded again. It is the old one with the new files declared behind the others,
and another update with the same files writes the same text. A separator in a string or a key is where
this ends: it is written as it stands, and the file does not load any more.
-/

namespace StrictFiles

namespace Config

/-- A second update with the same files writes the same text. -/
theorem update_again {tree after : FileTree} {path : Path} {document : Json} {files : List Path}
    {added : Nat} (updated : update tree path document files = (after, .ok added))
    (absolute : ∀ file ∈ files, file.isAbsolute) :
    ∃ grown, Adds document path.parent files grown added ∧
      after.readText path = .ok (fileText grown) ∧ update after path grown files = (after, .ok 0) := by
  obtain ⟨grown, growth, replaced⟩ := update_ok updated
  have adds := addToDocument_iff.mp growth
  obtain ⟨target, file, located, rewritten⟩ := FileTree.replaceContent_rewrites replaced
  obtain ⟨_, status⟩ := rewritten.status located
  refine ⟨grown, adds, ?_, ?_⟩
  · rw [FileTree.readText, status]
    exact FileTree.textOf_eq_ok.mpr ⟨_, rfl, Utf8.decode_encode _⟩
  · rw [update, updateWith, status]
    dsimp only
    rw [addToDocument_iff.mpr (adds.again absolute)]
    dsimp only
    rw [FileTree.replaceContent_after replaced, replaced]

/-- A loaded configuration takes files that all have a spelling. -/
theorem update_of_loaded {tree : FileTree} {path : Path} {config : Config} {files : List Path}
    (loaded : load tree path = .ok config)
    (spelt : ∀ file ∈ files, ∃ text, (file.relativeTo config.directory).text? = some text) :
    ∃ after added, update tree path config.document files = (after, .ok added) := by
  obtain ⟨members, texts, read, entries, rfl⟩ := load_eq_ok.mp loaded
  obtain ⟨file, _, status, _, _⟩ := readDocument_eq_ok.mp read
  let way (file : Path) := (file.relativeTo path.parent).text?
  have spellings : ∃ new : List String,
      (newFiles (listed path.parent (texts.map .string)) files).map way = new.map some := by
    have each : ∀ file ∈ newFiles (listed path.parent (texts.map .string)) files,
        ∃ text, way file = some text :=
      fun file new => spelt file (mem_newFiles.mp new).1
    refine ⟨(newFiles (listed path.parent (texts.map .string)) files).map
      fun file => (way file).getD "", ?_⟩
    rw [List.map_map]
    apply List.map_congr_left
    intro file new
    obtain ⟨text, known⟩ := each file new
    rw [Function.comp_apply, known, Option.getD_some]
  obtain ⟨new, known⟩ := spellings
  obtain ⟨after, updated⟩ := update_of_file status ⟨members, _, new, rfl, entries, known, rfl, rfl⟩
  exact ⟨after, _, updated⟩

/-- The configuration with new files declared, and another document. -/
def declaring (config : Config) (files : List Path) (document : Json) : Config :=
  { config with declared := config.declared ++ files, document }

/-- What the file with the grown document loads as: the configuration with the new files declared,
unless the document holds a separator. -/
theorem load_updated {before after : FileTree} {path : Path} {config : Config} {files : List Path}
    {written : Json} {added : Nat} (loaded : load before path = .ok config)
    (floatFree : config.document.FloatFree) (absolute : ∀ file ∈ files, file.isAbsolute)
    (adds : Adds config.document path.parent files written added)
    (text : after.readText path = .ok (fileText written)) :
    load after path =
      if written.hasSeparator then .error ⟨path, .notParsed⟩
      else .ok (config.declaring (newFiles config.declared files) written) := by
  obtain ⟨members, texts, read, entries, rfl⟩ := load_eq_ok.mp loaded
  obtain ⟨_, spelling, _, _, spelt⟩ := readDocument_eq_ok.mp read
  obtain ⟨new, spellings, rfl, rfl⟩ := adds.of_strings entries
  have lead := map_entryPath_of_spelt (fun file new => absolute file (mem_newFiles.mp new).1) spellings
  have sound : (withEntries members (texts ++ new)).Sound :=
    (Json.sound_of_read? spelt).withEntries (texts ++ new)
  have plain : (withEntries members (texts ++ new)).FloatFree := floatFree.withEntries (texts ++ new)
  have read := readDocument_of_text text
  rw [Json.read?_fileText sound plain] at read
  cases separated : (withEntries members (texts ++ new)).hasSeparator with
  | true =>
    rw [separated] at read
    rw [load, read]
    rfl
  | false =>
    rw [separated] at read
    have fresh : newFiles (ofMembers path members texts).declared files =
        newFiles (texts.map (entryPath path.parent)) files := by
      simp only [newFiles, ofMembers, mem_distinct]
    have unique := distinct_nodup (files.filter fun file => file ∉ texts.map (entryPath path.parent))
    rw [← newFiles, ← lead] at unique
    have undeclared : ∀ file ∈ new.map (entryPath path.parent),
        file ∉ texts.map (entryPath path.parent) := by
      intro file among
      rw [lead] at among
      exact (mem_newFiles.mp among).2
    rw [load_eq_ok.mpr ⟨_, texts ++ new, read, entries?_put members _, rfl⟩,
      ofMembers_put path members unique undeclared, fresh, ← lead]
    rfl

theorem inherited?_declaring {config : Config} {files : List Path} {written : Json} {added : Nat}
    (adds : Adds config.document config.directory files written added) (new : List Path) :
    (config.declaring new written).inherited? = config.inherited? := by
  obtain ⟨members, _, _, document, _, _, _, rfl⟩ := adds
  have other : extendsKey ≠ filesKey := by decide
  rw [inherited?, inherited?, document, declaring]
  exact Members.get?_put_of_ne members _ other

/-- A loaded configuration without floats that is updated with absolute files. The update succeeds when
the files have spellings. When one does, on the same tree or another, the file holds the grown document:
it loads again, as the same configuration with the new files declared behind the others, exactly when no
string and no key in it holds a separator. A second update with the same files changes nothing. -/
theorem update_reloads {before : FileTree} {path : Path} {config : Config}
    (loaded : load before path = .ok config) (floatFree : config.document.FloatFree)
    {files : List Path} (absolute : ∀ file ∈ files, file.isAbsolute) :
    ((∀ file ∈ files, ∃ text, (file.relativeTo config.directory).text? = some text) →
      ∃ after added, update before path config.document files = (after, .ok added)) ∧
    ∀ tree after added, update tree path config.document files = (after, .ok added) →
      ∃ written, Adds config.document config.directory files written added ∧
        after.readText path = .ok (fileText written) ∧
        load after path = (if written.hasSeparator then .error ⟨path, .notParsed⟩
          else .ok (config.declaring (newFiles config.declared files) written)) ∧
        (config.declaring (newFiles config.declared files) written).inherited? = config.inherited? ∧
        update after path written files = (after, .ok 0) := by
  refine ⟨update_of_loaded loaded, ?_⟩
  intro tree after added updated
  have directory : config.directory = path.parent := by
    obtain ⟨_, _, _, _, rfl⟩ := load_eq_ok.mp loaded
    rfl
  obtain ⟨written, adds, text, again⟩ := update_again updated absolute
  have reloaded := load_updated loaded floatFree absolute adds text
  rw [← directory] at adds
  exact ⟨written, adds, text, reloaded, inherited?_declaring adds _, again⟩

theorem spelt_passing : ∀ file ∈ [SmallProject.passing],
    ∃ text, (file.relativeTo SmallProject.config.parent).text? = some text := by
  intro file among
  rw [List.mem_singleton.mp among]
  exact ⟨"b.ts", by cbv⟩

/-- The small project takes the file that passes, and declares it when it is loaded again. -/
theorem update_reloads_smallProject :
    ∃ after reloaded, update SmallProject.tree SmallProject.config SmallProject.loaded.document
        [SmallProject.passing] = (after, .ok 1) ∧
      load after SmallProject.config = .ok reloaded ∧
      reloaded.declared = [SmallProject.declared, SmallProject.passing] ∧
      update after SmallProject.config reloaded.document [SmallProject.passing] = (after, .ok 0) := by
  have floatFree : SmallProject.loaded.document.FloatFree := by
    decide
  have absolute : ∀ file ∈ [SmallProject.passing], file.isAbsolute := by
    decide
  obtain ⟨succeeds, reloads⟩ := update_reloads SmallProject.loads floatFree absolute
  obtain ⟨after, added, updated⟩ := succeeds spelt_passing
  obtain ⟨written, adds, _, loaded, _, again⟩ := reloads _ after added updated
  have grows : addToDocument SmallProject.loaded.document SmallProject.loaded.directory
      [SmallProject.passing] = .ok (withEntries [] ["./a.ts", "b.ts"], 1) := by
    cbv
  rw [addToDocument_iff.mpr adds] at grows
  cases grows
  rw [if_neg (by decide)] at loaded
  exact ⟨after, _, updated, loaded, by decide, again⟩

namespace SeparatorProject

/-- A configuration at `/c` with an escaped line separator in a string. -/
def tree : FileTree :=
  ⟨[(SmallProject.config.names,
    .file ⟨0o600, Utf8.ofString "\x7bk: '\\u2028'\x7d", none⟩)]⟩

/-- What the configuration reads as. -/
def loaded : Config := ofMembers SmallProject.config [("k", .string "\u2028")] []

set_option maxRecDepth 20000 in
theorem loads : load tree SmallProject.config = .ok loaded := by
  have read : readDocument tree SmallProject.config = .ok loaded.document := by
    cbv
  exact load_eq_ok.mpr ⟨_, [], read, rfl, rfl⟩

end SeparatorProject

/-- A separator that is escaped is read, but it is written as it stands. What has been updated does not
load any more. -/
theorem separator_not_reloaded :
    load SeparatorProject.tree SmallProject.config = .ok SeparatorProject.loaded ∧
    SeparatorProject.loaded.document.FloatFree ∧
    (∀ file ∈ [SmallProject.passing], file.isAbsolute ∧
      ∃ text, (file.relativeTo SeparatorProject.loaded.directory).text? = some text) ∧
    ∃ after, update SeparatorProject.tree SmallProject.config SeparatorProject.loaded.document
        [SmallProject.passing] = (after, .ok 1) ∧
      load after SmallProject.config = .error ⟨SmallProject.config, .notParsed⟩ := by
  have floatFree : SeparatorProject.loaded.document.FloatFree := by
    decide
  have absolute : ∀ file ∈ [SmallProject.passing], file.isAbsolute := by
    decide
  obtain ⟨after, added, updated⟩ := update_of_loaded SeparatorProject.loads spelt_passing
  obtain ⟨written, adds, text, _⟩ := update_again updated absolute
  have reloaded := load_updated SeparatorProject.loads floatFree absolute adds text
  have grows : addToDocument SeparatorProject.loaded.document SmallProject.config.parent
      [SmallProject.passing] = .ok
        (.object [("k", .string "\u2028"), (filesKey, .array [.string "b.ts"])], 1) := by
    cbv
  rw [addToDocument_iff.mpr adds] at grows
  cases grows
  rw [if_pos (by decide)] at reloaded
  exact ⟨SeparatorProject.loads, floatFree,
    fun file among => ⟨absolute file among, spelt_passing file among⟩, after, updated, reloaded⟩

end Config

end StrictFiles
