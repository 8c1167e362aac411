import Mathlib
import StrictFiles.Proofs.ReadDocument
import StrictFiles.Proofs.TemporaryProject

/-!
What a temporary project says. Read as a configuration, from wherever, it declares the files that a unit
was asked for and has the options and bases it was given. A separator or a wide number in them is where
this ends: it is written as it stands, and the project is not read.
-/

namespace StrictFiles

namespace Members

/-- The members of an object say what a unit was asked for, and nothing else. The files are the same from
every directory. -/
structure Ask (members : Members) (inherited : Option Json) (options : Json) (files : List Path) :
    Prop where
  keys : members.map Prod.fst = (inherited.map fun _ => Config.extendsKey).toList ++
    [Config.compilerOptionsKey, "include", Config.filesKey]
  inherits : members.get? Config.extendsKey = inherited
  configures : members.get? Config.compilerOptionsKey = some options
  includesNothing : members.get? "include" = some (.array [])
  lists : ∃ texts : List String,
    members.get? Config.filesKey = some (.array (texts.map .string)) ∧
      ∀ directory, texts.map (Config.entryPath directory) = files

/-- What asks for files is loaded as a configuration that declares them. -/
theorem Ask.loads {members : Members} {inherited : Option Json} {options : Json} {files : List Path}
    (ask : members.Ask inherited options files) (unique : files.Nodup) {tree : FileTree} {path : Path}
    (read : Config.readDocument tree path = .ok (.object members)) :
    Config.load tree path =
      .ok { path, directory := path.parent, compilerOptions := options, declared := files,
            document := .object members } := by
  obtain ⟨texts, listed, lead⟩ := ask.lists
  have entries : Config.entries? members = some (texts.map .string) := by
    rw [Config.entries?, listed]
  rw [Config.load_eq_ok.mpr ⟨members, texts, read, entries, rfl⟩, Config.ofMembers, ask.configures, lead,
    distinct_of_nodup unique]
  rfl

end Members

/-- The members of the project that files with these spellings are asked for with. -/
def projectMembers (inherited : Option Json) (options : Json) (texts : List String) : Members :=
  (inherited.map fun value => (Config.extendsKey, value)).toList ++
    [(Config.compilerOptionsKey, options), ("include", .array []),
      (Config.filesKey, .array (texts.map .string))]

theorem temporaryProject?_eq (inherited : Option Json) (options : Json) (files : List Path) :
    temporaryProject? inherited options files =
      (files.mapM Path.text?).map fun texts => .object (projectMembers inherited options texts) := by
  unfold temporaryProject?
  cases inherited <;> cases files.mapM Path.text? <;> rfl

theorem mapM_text?_eq_some {files : List Path} {texts : List String} :
    files.mapM Path.text? = some texts ↔ files.map Path.text? = texts.map some := by
  induction files generalizing texts with
  | nil => cases texts <;> simp
  | cons file files ih =>
    rw [List.mapM_cons, List.map_cons]
    cases texts with
    | nil => cases file.text? <;> cases files.mapM Path.text? <;> simp
    | cons text texts =>
      rw [List.map_cons, List.cons.injEq, ← ih]
      cases file.text? <;> cases files.mapM Path.text? <;> simp

theorem mapM_text?_eq_none {files : List Path} :
    files.mapM Path.text? = none ↔ ∃ file ∈ files, file.text? = none := by
  induction files with
  | nil => simp
  | cons file files ih =>
    rw [List.mapM_cons, List.exists_mem_cons_iff, ← ih]
    cases file.text? <;> cases files.mapM Path.text? <;> simp

/-- A project is made when, and only when, all files have a spelling. -/
theorem temporaryProject?_eq_some {inherited : Option Json} {options document : Json}
    {files : List Path} :
    temporaryProject? inherited options files = some document ↔
      ∃ texts : List String, files.map Path.text? = texts.map some ∧
        document = .object (projectMembers inherited options texts) := by
  simp only [temporaryProject?_eq, Option.map_eq_some_iff, mapM_text?_eq_some, eq_comm (b := document)]

theorem temporaryProject?_eq_none {inherited : Option Json} {options : Json} {files : List Path} :
    temporaryProject? inherited options files = none ↔ ∃ file ∈ files, file.text? = none := by
  rw [temporaryProject?_eq, Option.map_eq_none_iff, mapM_text?_eq_none]

theorem projectMembers_ask (inherited : Option Json) (options : Json) {files : List Path}
    {texts : List String} (absolute : ∀ file ∈ files, file.isAbsolute)
    (spelt : files.map Path.text? = texts.map some) :
    (projectMembers inherited options texts).Ask inherited options files where
  keys := by cases inherited <;> rfl
  inherits := by cases inherited <;> rfl
  configures := by cases inherited <;> rfl
  includesNothing := by cases inherited <;> rfl
  lists := by
    refine ⟨texts, by cases inherited <;> rfl, fun directory => ?_⟩
    exact Config.map_entryPath_of_ways
      (fun file among => Path.resolve_absolute (absolute file among) directory) spelt

namespace Json

section Project

variable {inherited : Option Json} {options : Json}

/-- A project has the values that it was given in it, and lists of strings. -/
theorem throughout_project {property : Json → Prop} {texts : List String}
    (own : property (.object (projectMembers inherited options texts)))
    (array : ∀ items, property (.array items)) (string : ∀ text, property (.string text))
    (inherits : ∀ value ∈ inherited, Throughout property value)
    (configures : Throughout property options) :
    Throughout property (.object (projectMembers inherited options texts)) := by
  rw [throughout_object]
  refine ⟨own, ?_⟩
  intro member among
  rw [projectMembers, List.mem_append, Option.mem_toList] at among
  rcases among with first | later
  · obtain ⟨value, known, rfl⟩ := Option.map_eq_some_iff.mp first
    exact inherits value known
  · simp only [List.mem_cons, List.not_mem_nil, or_false] at later
    rcases later with rfl | rfl | rfl
    · exact configures
    · exact throughout_array.mpr ⟨array _, nofun⟩
    · refine throughout_array.mpr ⟨array _, ?_⟩
      intro item listed
      obtain ⟨text, _, rfl⟩ := List.mem_map.mp listed
      exact throughout_alone rfl (string text)

theorem keyed_project (inherits : ∀ value ∈ inherited, value.Keyed) (configures : options.Keyed)
    (texts : List String) : Keyed (.object (projectMembers inherited options texts)) := by
  have keys : ((projectMembers inherited options texts).map Prod.fst).Nodup := by
    have all : [Config.extendsKey, Config.compilerOptionsKey, "include", Config.filesKey].Nodup := by
      decide
    cases inherited with
    | none => exact all.of_cons
    | some value => exact all
  exact throughout_project keys (fun _ => trivial) (fun _ => trivial) inherits configures

theorem floatFree_project (inherits : ∀ value ∈ inherited, value.FloatFree)
    (configures : options.FloatFree) (texts : List String) :
    FloatFree (.object (projectMembers inherited options texts)) :=
  throughout_project rfl (fun _ => rfl) (fun _ => rfl) inherits configures

/-- A project is refused when one of the values it was given is, or when a path holds a separator. -/
theorem isRefused_project (texts : List String) :
    isRefused (.object (projectMembers inherited options texts)) =
      (inherited.any isRefused || options.isRefused || texts.any holdsSeparator) := by
  have keys : holdsSeparator Config.extendsKey = false ∧
      holdsSeparator Config.compilerOptionsKey = false ∧ holdsSeparator "include" = false ∧
      holdsSeparator Config.filesKey = false := by
    decide
  have listed : (Json.array (texts.map .string)).isRefused = texts.any holdsSeparator := by
    rw [isRefused_array, List.any_map]
    exact congrArg (texts.any ·) (funext isRefused_string)
  have nothing : (Json.array []).isRefused = false := isRefused_array []
  rw [isRefused_object]
  cases inherited <;> simp [projectMembers, keys, listed, nothing, Bool.or_assoc]

end Project

end Json

namespace Tsc

/-- A unit is built when, and only when, all files have a spelling and there is a directory to write the
project into. -/
theorem build_iff {tsc : Tsc} {tree : FileTree} {files : List Path} {options : Json} :
    (∃ written unit, tsc.build tree files options = .ok (written, unit)) ↔
      (∀ file ∈ files, file.text? ≠ none) ∧
        ∃ directory, tree.locate tsc.directory = .ok directory ∧ tree.isDirectoryAt directory = true := by
  constructor
  · rintro ⟨written, unit, built⟩
    obtain ⟨same, staged⟩ := build_ok built
    obtain ⟨directory, _, located, there, _⟩ := staged.beside
    rw [same] at located
    refine ⟨?_, directory, located, there⟩
    intro file among noText
    have unspelt : temporaryProject? tsc.inherited options files = none :=
      temporaryProject?_eq_none.mpr ⟨file, among, noText⟩
    rw [build, unspelt] at built
    cases built
  · rintro ⟨spelt, directory, located, there⟩
    have start : 2 < (Utf8.ofString temporaryStart).length := by decide +kernel
    have plain : slash ∉ Utf8.ofString temporaryStart ++ Utf8.ofString temporaryEnd := by
      decide +kernel
    cases made : temporaryProject? tsc.inherited options files with
    | none =>
      obtain ⟨file, among, noText⟩ := temporaryProject?_eq_none.mp made
      exact absurd noText (spelt file among)
    | some project =>
      obtain ⟨written, place, created⟩ := FileTree.createTemporary_of_directory start plain there
        (Utf8.encode (project.pretty 0))
      rw [build, made, located]
      simp only [bind, Except.bind, created]
      exact ⟨_, _, rfl⟩

/-- The text of a unit is the printed project. -/
theorem text_of_build {tsc : Tsc} {tree written : FileTree} {files : List Path} {options : Json}
    {unit : TscUnit} (built : tsc.build tree files options = .ok (written, unit)) :
    ∃ texts : List String, files.map Path.text? = texts.map some ∧
      unit.text = Json.pretty 0 (.object (projectMembers tsc.inherited options texts)) := by
  rw [build] at built
  split at built
  · cases built
  rename_i project made
  obtain ⟨texts, spelt, rfl⟩ := temporaryProject?_eq_some.mp made
  dsimp only at built
  split at built
  · cases built
  · cases built
    exact ⟨texts, spelt, rfl⟩

/-- The text of a unit is read as its project, or refused. -/
theorem read?_of_build {tsc : Tsc} {tree written : FileTree} {files : List Path} {options : Json}
    {unit : TscUnit} (keyed : options.Keyed) (floatFree : options.FloatFree)
    (inherited : ∀ value ∈ tsc.inherited, value.Keyed ∧ value.FloatFree)
    (built : tsc.build tree files options = .ok (written, unit)) :
    ∃ texts : List String, files.map Path.text? = texts.map some ∧
      Json.read? unit.text =
        if tsc.inherited.any Json.isRefused || options.isRefused || texts.any Json.holdsSeparator
        then none else some (.object (projectMembers tsc.inherited options texts)) := by
  obtain ⟨texts, spelt, text⟩ := text_of_build built
  have read := Json.read?_printed
    (Json.keyed_project (fun value known => (inherited value known).1) keyed texts)
    (Json.floatFree_project (fun value known => (inherited value known).2) floatFree texts) (.inl rfl)
  rw [List.append_nil, ← text, Json.isRefused_project] at read
  exact ⟨texts, spelt, read⟩

/-- A compilation that is asked for a file without a spelling leaves no trace. -/
theorem compile_unspelt {tsc : Tsc} {files : List Path} {options : Json}
    (unspelt : ∃ file ∈ files, file.text? = none) (environment : Environment) :
    tsc.build environment.tree files options = .error .pathNotText ∧
      tsc.compile environment files options = ⟨environment.tree, none, [], .error .pathNotText⟩ := by
  have failed : tsc.build environment.tree files options = .error .pathNotText := by
    rw [build, temporaryProject?_eq_none.mpr unspelt]
  rw [compile, failed]
  exact ⟨rfl, rfl⟩

/-- A unit that is asked for absolute files, each once, with options and bases that have no floats and
each key once. It is built when all files have a spelling and there is a directory for its project, a new
file with the text of the unit. Read as a configuration, at any path of any tree, the text asks for just
these files with these options and bases, or it is refused, which is so exactly when a separator or a
wide number is in them. When a file has no spelling the unit is not built, and no file is made. -/
theorem build_asks_exactly (tsc : Tsc) {files : List Path} {options : Json} (unique : files.Nodup)
    (absolute : ∀ file ∈ files, file.isAbsolute) (keyed : options.Keyed)
    (floatFree : options.FloatFree)
    (inherited : ∀ value ∈ tsc.inherited, value.Keyed ∧ value.FloatFree) :
    (∀ tree, (∃ written unit, tsc.build tree files options = .ok (written, unit)) ↔
      (∀ file ∈ files, file.text? ≠ none) ∧
        ∃ directory, tree.locate tsc.directory = .ok directory ∧ tree.isDirectoryAt directory = true) ∧
    (∀ tree written unit, tsc.build tree files options = .ok (written, unit) →
      unit.Staged tree written ∧
      ∃ (texts : List String) (members : Members), files.map Path.text? = texts.map some ∧
        members.Ask tsc.inherited options files ∧
        Json.read? unit.text =
          (if tsc.inherited.any Json.isRefused || options.isRefused || texts.any Json.holdsSeparator
            then none else some (.object members)) ∧
        ∀ (other : FileTree) (path : Path), other.readText path = .ok unit.text →
          Config.load other path =
            if tsc.inherited.any Json.isRefused || options.isRefused || texts.any Json.holdsSeparator
            then .error ⟨path, .notParsed⟩
            else .ok { path, directory := path.parent, compilerOptions := options, declared := files,
                       document := .object members }) ∧
    ((∃ file ∈ files, file.text? = none) → ∀ environment : Environment,
      tsc.build environment.tree files options = .error .pathNotText ∧
        tsc.compile environment files options =
          ⟨environment.tree, none, [], .error .pathNotText⟩) := by
  refine ⟨fun tree => build_iff, ?_, compile_unspelt⟩
  intro tree written unit built
  obtain ⟨texts, spelt, read⟩ := read?_of_build keyed floatFree inherited built
  have ask := projectMembers_ask tsc.inherited options absolute spelt
  refine ⟨(build_ok built).2, texts, _, spelt, ask, read, ?_⟩
  intro other path content
  have document := Config.readDocument_of_text content
  rw [read] at document
  split at document
  · rename_i refused
    rw [if_pos refused, Config.load, document]
    rfl
  · rename_i taken
    rw [if_neg taken, ask.loads unique document]

namespace EmptyTree

/-- A compiler at the root of an empty tree, for a project whose base is `null`. -/
def tsc : Tsc := ⟨[], .root, some .null⟩

/-- The files `/b` and `/a`. -/
def files : List Path := [.absolute [⟨[98], by decide⟩], .absolute [⟨[97], by decide⟩]]

def options : Json := .object [("strict", .bool true), ("lib", .array [.integer 5, .null])]

theorem locates : FileTree.empty.locate tsc.directory = .ok [] := by
  cbv

theorem inherited : ∀ value ∈ tsc.inherited, value.Keyed ∧ value.FloatFree := by
  intro value known
  cases known
  decide

end EmptyTree

/-- At the root of an empty tree the text of a unit asks for its files, options and the base `null`. -/
theorem build_asks_exactly_emptyTree :
    ∃ (written : FileTree) (unit : TscUnit) (members : Members),
      EmptyTree.tsc.build .empty EmptyTree.files EmptyTree.options = .ok (written, unit) ∧
      Json.read? unit.text = some (.object members) ∧
      members.Ask (some .null) EmptyTree.options EmptyTree.files := by
  have unique : EmptyTree.files.Nodup := by decide
  have absolute : ∀ file ∈ EmptyTree.files, file.isAbsolute := by decide
  have keyed : EmptyTree.options.Keyed := by decide
  have floatFree : EmptyTree.options.FloatFree := by decide
  have spellings : EmptyTree.files.map Path.text? = ["/b", "/a"].map some := by
    cbv
  have all : ∀ file ∈ EmptyTree.files, file.text? ≠ none := by
    intro file among noText
    have listed : none ∈ EmptyTree.files.map Path.text? := noText ▸ List.mem_map_of_mem among
    rw [spellings] at listed
    simp at listed
  obtain ⟨succeeds, asks, _⟩ :=
    build_asks_exactly EmptyTree.tsc unique absolute keyed floatFree EmptyTree.inherited
  obtain ⟨written, unit, built⟩ := (succeeds .empty).mpr ⟨all, [], EmptyTree.locates, rfl⟩
  obtain ⟨_, texts, members, spelt, ask, read, _⟩ := asks .empty written unit built
  rw [spellings] at spelt
  have same : ["/b", "/a"] = texts := (List.map_inj_right fun _ _ => Option.some.inj).mp spelt
  subst same
  rw [if_neg (by decide)] at read
  exact ⟨written, unit, members, built, read, ask⟩

/-- A project with options that are refused is written, but not read. -/
theorem not_read_of_refused {options : Json} (keyed : options.Keyed) (floatFree : options.FloatFree)
    (refused : options.isRefused = true) :
    ∃ written unit, EmptyTree.tsc.build .empty [] options = .ok (written, unit) ∧
      Json.read? unit.text = none := by
  have succeeds : ∃ written unit, EmptyTree.tsc.build .empty [] options = .ok (written, unit) :=
    build_iff.mpr ⟨nofun, [], EmptyTree.locates, rfl⟩
  obtain ⟨written, unit, built⟩ := succeeds
  obtain ⟨texts, _, read⟩ := read?_of_build keyed floatFree EmptyTree.inherited built
  rw [refused, Bool.or_true, Bool.true_or, if_pos rfl] at read
  exact ⟨written, unit, built, read⟩

/-- A separator in an option is written as it stands, and so is a whole number of 64 bits: the project is
not read. -/
theorem separator_not_asked :
    (∃ written unit,
      EmptyTree.tsc.build .empty [] (.object [("k", .string "\u2028")]) = .ok (written, unit) ∧
        Json.read? unit.text = none) ∧
    ∃ written unit,
      EmptyTree.tsc.build .empty [] (.object [("k", .integer 0x8000000000000000)]) =
          .ok (written, unit) ∧
        Json.read? unit.text = none :=
  ⟨not_read_of_refused (by decide) (by decide) (by decide),
    not_read_of_refused (by decide) (by decide) (by decide)⟩

end Tsc

end StrictFiles
