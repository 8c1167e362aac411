import Mathlib
import StrictFiles.Proofs.ExtendedDocument
import StrictFiles.Proofs.ReloadedConfig
import StrictFiles.Proofs.SettledRun

/-!
The history of a configuration: runs of all kinds, that succeed or fail, and whatever else happens
to the tree between them. From any point of it to any later one the configuration only grows, by
entries for files that pass in the run that appends them.
-/

namespace StrictFiles

namespace Config

/-- From one tree to another the configuration at a path has grown by the entries `added`. Where it
has not, its text is the same. -/
structure Grows (path : Path) (first : FileTree) (added : List String) (last : FileTree) : Prop where
  untouched : added = [] → last.readText path = first.readText path
  readable : added ≠ [] → ∃ initial, readDocument first path = .ok initial
  extended : ∀ initial, readDocument first path = .ok initial →
    ∃ final, readDocument last path = .ok final ∧ Extends path.parent initial added final

section Grows

variable {path : Path} {first middle last : FileTree}

theorem grows_of_same_text (same : last.readText path = first.readText path) :
    Grows path first [] last where
  untouched _ := same
  readable appended := (appended rfl).elim
  extended initial read := by
    rw [readDocument_eq_ok_iff_text, ← same, ← readDocument_eq_ok_iff_text] at read
    exact ⟨initial, read, .refl path.parent initial⟩

theorem Grows.trans {old new : List String} (before : Grows path first old middle)
    (after : Grows path middle new last) : Grows path first (old ++ new) last where
  untouched nothing := by
    obtain ⟨noOld, noNew⟩ := List.append_eq_nil_iff.mp nothing
    rw [after.untouched noNew, before.untouched noOld]
  readable appended := by
    by_cases noOld : old = []
    · rw [noOld, List.nil_append] at appended
      obtain ⟨document, read⟩ := after.readable appended
      rw [readDocument_eq_ok_iff_text, before.untouched noOld, ← readDocument_eq_ok_iff_text] at read
      exact ⟨document, read⟩
    · exact before.readable noOld
  extended initial read := by
    obtain ⟨between, there, early⟩ := before.extended initial read
    obtain ⟨final, found, late⟩ := after.extended between there
    exact ⟨final, found, early.trans late⟩

/-- An update of a loaded configuration makes it grow by entries that lead to the new files. -/
theorem grows_of_update {tree after : FileTree} {config : Config} {files : List Path} {added : Nat}
    (loaded : load tree path = .ok config) (absolute : ∀ file ∈ files, file.isAbsolute)
    (unique : files.Nodup) (fresh : ∀ file ∈ files, file ∉ config.declared) (nonempty : files ≠ [])
    (readsBack : ReadsBack config files)
    (updated : update tree path config.document files = (after, .ok added)) :
    ∃ new : List String, new.map (entryPath path.parent) = files ∧ Grows path tree new after := by
  obtain ⟨members, texts, read, entries, rfl⟩ := load_eq_ok.mp loaded
  -- What is declared is what the entries lead to, each file once.
  have unlisted : ∀ file ∈ files, file ∉ texts.map (entryPath path.parent) := by
    intro file member
    rw [← mem_distinct]
    exact fresh file member
  obtain ⟨new, lead, growth, _, content⟩ := update_grows read entries absolute unique unlisted updated
  have written := readDocument_of_printed content (readsBack nonempty _ _ growth)
  have appended : new ≠ [] := by
    rintro rfl
    exact nonempty lead.symm
  rw [← lead] at unique unlisted
  have extended := extends_withEntries entries appended unique unlisted
  refine ⟨new, lead, fun nothing => (appended nothing).elim, fun _ => ⟨_, read⟩, ?_⟩
  intro initial known
  rw [read, Except.ok.injEq] at known
  subst known
  exact ⟨_, written, extended⟩

end Grows

end Config

/-- A loaded configuration without floats reads back as it is written, as long as there is no
separator in it or in the spelling of a file. -/
theorem readsBack_of_plain {tree : FileTree} {path : Path} {config : Config} {files : List Path}
    (loaded : Config.load tree path = .ok config) (floatFree : config.document.FloatFree)
    (plain : config.document.hasSeparator = false)
    (ways : ∀ file ∈ files,
      ((file.relativeTo config.directory).text?).any Json.holdsSeparator = false) :
    ∀ grown added, Config.addToDocument config.document config.path.parent files =
      .ok (grown, added) → Json.read? (Config.fileText grown) = some grown := by
  intro grown added growth
  obtain ⟨members, texts, read, entries, rfl⟩ := Config.load_eq_ok.mp loaded
  obtain ⟨new, spelt, rfl, rfl⟩ := (Config.addToDocument_iff.mp growth).of_strings entries
  have fresh : ∀ text ∈ new, Json.holdsSeparator text = false := by
    intro text among
    have spelling := List.mem_map_of_mem (f := some) among
    rw [← spelt, List.mem_map] at spelling
    obtain ⟨file, member, way⟩ := spelling
    have clean := ways file (Config.mem_newFiles.mp member).1
    dsimp only [Config.ofMembers] at way clean
    rwa [way, Option.any_some] at clean
  have old := Json.holdsSeparator_of_entries plain entries
  have clean : (Config.withEntries members (texts ++ new)).hasSeparator = false :=
    Json.hasSeparator_withEntries plain fun text among =>
      (List.mem_append.mp among).elim (old text) (fresh text)
  obtain ⟨_, _, _, _, spelling⟩ := Config.readDocument_eq_ok.mp read
  have sound := (Json.sound_of_read? spelling).withEntries (texts ++ new)
  have back := Json.read?_fileText sound (floatFree.withEntries (texts ++ new))
  rwa [if_neg (by rw [clean]; exact Bool.false_ne_true)] at back

/-- A run, with all that it depends on. -/
structure Call where
  environment : Environment
  options : RunOptions
  frontEnd : FrontEnd
  output : Output

namespace Call

/-- What the run comes to. -/
def ended (call : Call) : Run :=
  run call.environment call.options call.frontEnd call.output

/-- The configuration that the call is given is the one at `path`, if its path leads anywhere. -/
def IsAt (call : Call) (path : Path) : Prop :=
  ∀ known, resolveOption call.environment call.options.config = .ok known → known = path

/-- The document that the call leaves in the configuration, if it changes the tree at all. -/
def Writes (call : Call) (document : Json) : Prop :=
  call.ended.tree ≠ call.environment.tree ∧ ∃ config discovered found added,
    Finds call.environment call.options call.frontEnd config discovered found ∧
    Config.addToDocument config.document config.path.parent found.partitions.toInclude =
      .ok (document, added)

/-- What the call writes, if anything, is read back as it was written. -/
def ReadsBack (call : Call) : Prop :=
  ∀ document, call.Writes document → Json.read? (Config.fileText document) = some document

/-- In this call the file is discovered, it is not vendored, and it does not fail. -/
def Admits (call : Call) (file : Path) : Prop :=
  ∃ config discovered diagnostics,
    prepare call.environment call.options = .ok (config, discovered) ∧
    call.frontEnd.answer (filesToCheck call.options.vendor discovered) config.compilerOptions =
      .ok diagnostics ∧
    Passes call.options.vendor discovered diagnostics file

/-- The call appends these entries to the configuration, each for a file that it admits. -/
structure Appends (call : Call) (path : Path) (added : List String) : Prop where
  grows : Config.Grows path call.environment.tree added call.ended.tree
  admits : ∀ entry ∈ added, call.Admits (Config.entryPath path.parent entry)

theorem appends_nothing {call : Call} {path : Path} (same : call.ended.tree = call.environment.tree) :
    call.Appends path [] where
  grows := Config.grows_of_same_text (by rw [same])
  admits := nofun

/-- Whatever a call comes to, it appends some entries, or none. -/
theorem exists_appends (call : Call) {path : Path} (atPath : call.IsAt path)
    (readsBack : call.ReadsBack) : ∃ added, call.Appends path added := by
  by_cases same : call.ended.tree = call.environment.tree
  · exact ⟨[], appends_nothing same⟩
  cases prepared : prepare call.environment call.options with
  | error error =>
    rw [ended, run, prepared] at same
    exact (same rfl).elim
  | ok start =>
    obtain ⟨config, discovered⟩ := start
    have changed := same
    rw [ended, run_of_prepared prepared] at changed
    obtain ⟨found, added, classified, ⟨_, promotes⟩, updated⟩ :=
      (runPrepared_tree call.environment.tree call.options call.frontEnd config discovered
        call.output).resolve_left changed
    rw [← run_of_prepared prepared, ← ended] at updated
    have back : StrictFiles.ReadsBack config found.partitions.toInclude :=
      fun _ grown count growth =>
        readsBack grown ⟨same, config, discovered, found, count, ⟨prepared, classified⟩, growth⟩
    obtain ⟨_, diagnostics, answer, rfl⟩ := classifyProject_eq_ok.mp classified
    have divides := partitionsOn_divides call.options.vendor discovered config.declared diagnostics
    obtain ⟨known, _, resolved, _, loaded, _, _⟩ := prepare_eq_ok.mp prepared
    have here := atPath known resolved
    subst here
    have configPath : config.path = known := by
      obtain ⟨_, _, _, _, rfl⟩ := Config.load_eq_ok.mp loaded
      rfl
    rw [configPath] at updated
    obtain ⟨new, lead, grows⟩ := Config.grows_of_update loaded
      (fun file member => discovered_absolute prepared file ((divides.included file).mp member).1.1)
      (divides.unique _ List.mem_cons_self)
      (fun file member => ((divides.included file).mp member).2.2) promotes back updated
    refine ⟨new, grows, ?_⟩
    intro entry among
    have member := List.mem_map_of_mem (f := Config.entryPath known.parent) among
    rw [lead] at member
    obtain ⟨discoveredHere, passes, _⟩ := (divides.included _).mp member
    exact ⟨config, discovered, diagnostics, prepared, answer, discoveredHere, passes⟩

theorem isAt_of_prepared {call : Call} {config : Config} {discovered : List Path}
    (prepared : prepare call.environment call.options = .ok (config, discovered)) :
    call.IsAt config.path := by
  obtain ⟨path, _, resolved, _, loaded, _, _⟩ := prepare_eq_ok.mp prepared
  obtain ⟨_, _, _, _, rfl⟩ := Config.load_eq_ok.mp loaded
  intro known leads
  rw [resolved] at leads
  exact (Except.ok.inj leads).symm

theorem readsBack_of_prepared {call : Call} {config : Config} {discovered : List Path}
    (prepared : prepare call.environment call.options = .ok (config, discovered))
    (floatFree : config.document.FloatFree) (plain : config.document.hasSeparator = false)
    (ways : ∀ file ∈ discovered,
      ((file.relativeTo config.directory).text?).any Json.holdsSeparator = false) :
    call.ReadsBack := by
  rintro document ⟨_, other, files, found, added, finds, growth⟩
  have same := finds.prepared
  rw [prepared] at same
  cases same
  obtain ⟨_, _, _, _, loaded, _, _⟩ := prepare_eq_ok.mp prepared
  obtain ⟨_, diagnostics, _, rfl⟩ := classifyProject_eq_ok.mp finds.classified
  have divides := partitionsOn_divides call.options.vendor discovered config.declared diagnostics
  exact readsBack_of_plain loaded floatFree plain
    (fun file member => ways file ((divides.included file).mp member).1.1) document added growth

end Call

/-- A history of the configuration at `path`: the tree it starts from, the runs on it in order, and
the tree it has come to. Between two runs the tree may change in any way that leaves the text of the
configuration. -/
inductive History (path : Path) (first : FileTree) : List Call → FileTree → Prop
  | start : History path first [] first
  | edited {calls : List Call} {tree other : FileTree} (before : History path first calls tree)
    (same : other.readText path = tree.readText path) : History path first calls other
  | called {calls : List Call} {tree : FileTree} {call : Call} (before : History path first calls tree)
    (onTree : call.environment.tree = tree) (atPath : call.IsAt path) (readsBack : call.ReadsBack) :
    History path first (calls ++ [call]) call.ended.tree

/-- Each call of a history has appended entries of its own, and the configuration has grown by all of
them. -/
theorem History.grows {path : Path} {first last : FileTree} {calls : List Call}
    (history : History path first calls last) :
    ∃ news, List.Forall₂ (fun call added => call.Appends path added) calls news ∧
      Config.Grows path first news.flatten last := by
  induction history with
  | start => exact ⟨[], .nil, Config.grows_of_same_text rfl⟩
  | edited _ same ih =>
    obtain ⟨news, each, grows⟩ := ih
    have kept := grows.trans (Config.grows_of_same_text same)
    rw [List.append_nil] at kept
    exact ⟨news, each, kept⟩
  | @called calls tree call _ onTree atPath readsBack ih =>
    obtain ⟨news, each, grows⟩ := ih
    obtain ⟨added, appends⟩ := call.exists_appends atPath readsBack
    have further := appends.grows
    rw [onTree] at further
    refine ⟨news ++ [added], List.rel_append each (.cons appends .nil), ?_⟩
    rw [List.flatten_append, List.flatten_singleton]
    exact grows.trans further

/-- Over any history, and from any point of it to any later one, a configuration only grows. What
the runs append are entries for files that each run admits itself; all of them lead to different
files, and to none that an entry led to at first. -/
theorem configuration_only_grows {path : Path} {first middle last : FileTree}
    {calls later : List Call} (before : History path first calls middle)
    (after : History path middle later last) :
    ∃ old new, List.Forall₂ (fun call added => call.Appends path added) calls old ∧
      List.Forall₂ (fun call added => call.Appends path added) later new ∧
      Config.Grows path first old.flatten middle ∧ Config.Grows path middle new.flatten last ∧
      Config.Grows path first (old ++ new).flatten last := by
  obtain ⟨old, eachOld, early⟩ := before.grows
  obtain ⟨new, eachNew, late⟩ := after.grows
  have whole := early.trans late
  rw [← List.flatten_append] at whole
  exact ⟨old, new, eachOld, eachNew, early, late, whole⟩

namespace SmallProject

/-- The source file `/e.ts`, which is written later. -/
def later : Path := .absolute [⟨[101, 46, 116, 115], by decide⟩]

/-- The document that a first run writes. -/
def grown : Json := Config.withEntries [] ["./a.ts", "b.ts"]

/-- What that run leaves, with one more source file. -/
def edited : FileTree :=
  ⟨[(config.names, .file ⟨0o600, Utf8.encode (Config.fileText grown), none⟩),
    (declared.names, .file ⟨0o644, [], none⟩), (passing.names, .file ⟨0o644, [], none⟩),
    (failing.names, .file ⟨0o644, [], none⟩), (later.names, .file ⟨0o644, [], none⟩)]⟩

def firstCall : Call := ⟨environment, options, frontEnd, .unlimited⟩

/-- A second run, in which nothing fails any more. -/
def secondCall : Call :=
  ⟨{ environment with tree := edited }, options, ⟨fun _ _ => .ok ⟨.ok []⟩⟩, .unlimited⟩

/-- What the second run loads. -/
def reloaded : Config :=
  .ofMembers config [(Config.filesKey, .array [.string "./a.ts", .string "b.ts"])] ["./a.ts", "b.ts"]

set_option maxRecDepth 20000 in
theorem prepares_secondCall : prepare secondCall.environment secondCall.options =
    .ok (reloaded, [declared, passing, failing, later]) := by
  cbv

theorem text_firstCall : firstCall.ended.tree.readText config = .ok (Config.fileText grown) := by
  rw [firstCall, Call.ended, run_of_prepared prepares]
  cbv

theorem text_edited : edited.readText config = .ok (Config.fileText grown) := by
  cbv

end SmallProject

/-- Two runs on the small project, with another source file written between them. The second one
lists the files that failed or were not there in the first. -/
theorem configuration_only_grows_smallProject :
    let final := Config.withEntries [] ["./a.ts", "b.ts", "d.ts", "e.ts"]
    ∃ initial added, Config.readDocument SmallProject.tree SmallProject.config = .ok initial ∧
      Config.readDocument SmallProject.secondCall.ended.tree SmallProject.config = .ok final ∧
      Config.Extends .root initial added final := by
  have first : prepare SmallProject.firstCall.environment SmallProject.firstCall.options =
      .ok (SmallProject.loaded, SmallProject.discovered) :=
    SmallProject.prepares
  have before : History SmallProject.config SmallProject.tree [SmallProject.firstCall]
      SmallProject.firstCall.ended.tree :=
    .called .start rfl (Call.isAt_of_prepared first)
      (Call.readsBack_of_prepared first (by decide) (by decide) (by decide +kernel))
  have same : SmallProject.edited.readText SmallProject.config =
      SmallProject.firstCall.ended.tree.readText SmallProject.config := by
    rw [SmallProject.text_firstCall, SmallProject.text_edited]
  have after : History SmallProject.config SmallProject.firstCall.ended.tree [SmallProject.secondCall]
      SmallProject.secondCall.ended.tree :=
    .called (.edited .start same) rfl (Call.isAt_of_prepared SmallProject.prepares_secondCall)
      (Call.readsBack_of_prepared SmallProject.prepares_secondCall (by decide) (by decide)
        (by decide +kernel))
  obtain ⟨old, new, _, _, _, _, whole⟩ := configuration_only_grows before after
  obtain ⟨_, _, read, _, _⟩ := Config.load_eq_ok.mp SmallProject.loads
  obtain ⟨final, found, extended⟩ := whole.extended _ read
  have last : Config.readDocument SmallProject.secondCall.ended.tree SmallProject.config =
      .ok (Config.withEntries [] ["./a.ts", "b.ts", "d.ts", "e.ts"]) := by
    rw [Call.ended, run_of_prepared SmallProject.prepares_secondCall]
    cbv
  rw [last] at found
  cases found
  exact ⟨_, _, read, last, extended⟩

end StrictFiles
