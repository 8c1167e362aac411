import Mathlib
import StrictFiles.Proofs.AtomicUpdate
import StrictFiles.Proofs.FourParts
import StrictFiles.Proofs.PreparedRun
import StrictFiles.Proofs.RunEndings

/-!
When a run changes the tree. It does so last, when the front end has answered, there is something to
include and all of the report is out, and it changes nothing but the content of the configuration.
-/

namespace StrictFiles

namespace Output

/-- A text is taken piece by piece, or at once; an output that refuses it does so at some piece. -/
theorem write?_append (output : Output) (first second : String) :
    output.write? (first ++ second) = (output.write? first).bind fun next => next.write? second := by
  simp only [write?, ← String.append_assoc]
  cases output.room with
  | none => rfl
  | some room =>
    simp only [Option.all_some, decide_eq_true_eq, String.utf8ByteSize_append]
    by_cases fits : output.written.utf8ByteSize + first.utf8ByteSize ≤ room
    · simp only [if_pos fits, Option.bind_some, Option.all_some, decide_eq_true_eq,
        String.utf8ByteSize_append]
    · rw [if_neg fits, Option.bind_none, if_neg (by omega)]

end Output

/-- All that a run writes up to the end of its report. -/
def reportText (options : RunOptions) (config : Config) (discovered : List Path)
    (found : Classification) : String :=
  let reporter := reporterFor options config
  reporter.render (reporter.analyzing discovered.length) ++
    reporter.render (reporter.report found.partitions found.verdicts)

theorem Reported.accepted {options : RunOptions} {frontEnd : FrontEnd} {config : Config}
    {discovered : List Path} {output shown : Output} {found : Classification}
    (reported : Reported options frontEnd config discovered output found shown) :
    output.write? (reportText options config discovered found) = some shown := by
  rw [reportText, Output.write?_append]
  exact reported.complete

/-- The tree holds the loaded document with entries for `files` behind the old ones, in the file that
the configuration's path leads to. Nothing else is different. -/
def ListsAlso (tree after : FileTree) (config : Config) (files : List Path) (added : Nat) : Prop :=
  ∃ members old new target file,
    config.document = .object members ∧ Config.entries? members = some (old.map .string) ∧
    files.map (fun file => (file.relativeTo config.directory).text?) = new.map some ∧
    added = new.length ∧ tree.locate config.path = .ok target ∧
    FileTree.Rewritten tree after target file
      (Utf8.encode (Config.fileText (Config.withEntries members (old ++ new))))

/-- What has come before a change of the tree, and what the change is. -/
structure WrittenLast (tree : FileTree) (options : RunOptions) (frontEnd : FrontEnd) (config : Config)
    (discovered : List Path) (output : Output) (ended : Run) : Prop where
  wanted : options.update = true
  done : ∃ unit diagnostics shown added,
    frontEnd.build (filesToCheck options.vendor discovered) config.compilerOptions = .ok unit ∧
    unit.diagnostics = .ok diagnostics ∧
    let found : Classification := ⟨verdictsOn options.vendor discovered diagnostics,
      partitionsOn options.vendor discovered config.declared diagnostics⟩
    output.write? (reportText options config discovered found) = some shown ∧
    (ended.output = shown ∨ confirmed? options config shown added = some ended.output) ∧
    found.partitions.toInclude ≠ [] ∧
    ListsAlso tree ended.tree config found.partitions.toInclude added

theorem answer_eq_ok {frontEnd : FrontEnd} {files : List Path} {options : Json}
    {diagnostics : List Diagnostic} :
    frontEnd.answer files options = .ok diagnostics ↔
      ∃ unit, frontEnd.build files options = .ok unit ∧ unit.diagnostics = .ok diagnostics :=
  bind_eq_ok

/-- Files that are not declared yet, each once, are added one by one. -/
theorem listsAlso_of_update {before tree after : FileTree} {path : Path} {config : Config}
    {files : List Path} {added : Nat} (loaded : Config.load before path = .ok config)
    (unique : files.Nodup) (fresh : ∀ file ∈ files, file ∉ config.declared)
    (updated : Config.update tree config.path config.document files = (after, .ok added)) :
    ListsAlso tree after config files added := by
  obtain ⟨members, texts, _, entries, rfl⟩ := Config.load_eq_ok.mp loaded
  obtain ⟨grown, target, file, adds, located, rewritten⟩ := Config.update_rewrites updated
  obtain ⟨new, spelt, rfl, rfl⟩ := adds.of_strings entries
  have undeclared : ∀ file ∈ files, file ∉ texts.map (Config.entryPath path.parent) := by
    intro file member
    rw [← mem_distinct]
    exact fresh file member
  dsimp only [Config.ofMembers] at spelt
  rw [Config.newFiles_of_fresh unique undeclared] at spelt
  exact ⟨members, texts, new, target, file, rfl, entries, spelt, rfl, located, rewritten⟩

theorem runPrepared_changed {before tree : FileTree} {path : Path} {options : RunOptions}
    {frontEnd : FrontEnd} {config : Config} {discovered : List Path} {output : Output}
    (loaded : Config.load before path = .ok config)
    (changed : (runPrepared tree options frontEnd config discovered output).tree ≠ tree) :
    WrittenLast tree options frontEnd config discovered output
      (runPrepared tree options frontEnd config discovered output) := by
  rcases runPrepared_ends tree options frontEnd config discovered output with
    cut | ⟨found, shown, reported, concluded⟩
  · exact (changed cut.failed.1).elim
  obtain ⟨_, diagnostics, answer, rfl⟩ := classifyProject_eq_ok.mp reported.classified
  obtain ⟨unit, built, said⟩ := answer_eq_ok.mp answer
  have divides := partitionsOn_divides options.vendor discovered config.declared diagnostics
  have listsAlso {after : FileTree} {added : Nat}
      (updated : Config.update tree config.path config.document
        (partitionsOn options.vendor discovered config.declared diagnostics).toInclude =
          (after, .ok added)) :=
    listsAlso_of_update loaded (divides.unique _ List.mem_cons_self)
      (fun file member => ((divides.included file).mp member).2.2) updated
  generalize runPrepared tree options frontEnd config discovered output = ended at *
  cases concluded with
  | kept => exact (changed rfl).elim
  | refused => exact (changed rfl).elim
  | unconfirmed promotes updated =>
    exact ⟨promotes.1, unit, diagnostics, shown, _, built, said, reported.accepted, .inl rfl,
      promotes.2, listsAlso updated⟩
  | updated promotes updated confirmed =>
    exact ⟨promotes.1, unit, diagnostics, shown, _, built, said, reported.accepted, .inr confirmed,
      promotes.2, listsAlso updated⟩

/-- Runs of a loaded configuration, prepared ones and whole ones, that change the tree: they were asked
to, the front end has built its unit and answered, the output has taken all of the report, and there
was something to include. The content of the configuration is all that is different. -/
theorem treeChange_comes_last {before : FileTree} {path : Path} {config : Config}
    (loaded : Config.load before path = .ok config) (environment : Environment) (tree : FileTree)
    (options : RunOptions) (frontEnd : FrontEnd) (discovered : List Path) (output : Output) :
    ((runPrepared tree options frontEnd config discovered output).tree = tree ∨
      WrittenLast tree options frontEnd config discovered output
        (runPrepared tree options frontEnd config discovered output)) ∧
    ((run environment options frontEnd output).tree = environment.tree ∨
      ∃ config discovered, prepare environment options = .ok (config, discovered) ∧
        WrittenLast environment.tree options frontEnd config discovered output
          (run environment options frontEnd output)) := by
  refine ⟨or_iff_not_imp_left.mpr (runPrepared_changed loaded), or_iff_not_imp_left.mpr ?_⟩
  intro changed
  cases prepared : prepare environment options with
  | error error =>
    rw [run, prepared] at changed
    exact (changed rfl).elim
  | ok start =>
    obtain ⟨config, discovered⟩ := start
    obtain ⟨_, _, _, _, found, _⟩ := prepare_eq_ok.mp prepared
    rw [run_of_prepared prepared] at changed ⊢
    exact ⟨config, discovered, rfl, runPrepared_changed found changed⟩

/-- The run of the small project changes the tree, with room for its report and nothing more. -/
theorem treeChange_comes_last_smallProject :
    (runPrepared SmallProject.tree SmallProject.options SmallProject.frontEnd SmallProject.loaded
      SmallProject.discovered (.limited 70)).tree ≠ SmallProject.tree ∧
    ListsAlso SmallProject.tree (runPrepared SmallProject.tree SmallProject.options
      SmallProject.frontEnd SmallProject.loaded SmallProject.discovered (.limited 70)).tree
      SmallProject.loaded [SmallProject.passing] 1 := by
  have changed : decide ((runPrepared SmallProject.tree SmallProject.options SmallProject.frontEnd
      SmallProject.loaded SmallProject.discovered (.limited 70)).tree = SmallProject.tree) =
        false := by
    cbv
  have different := of_decide_eq_false changed
  refine ⟨different, ?_⟩
  have last := treeChange_comes_last SmallProject.loads SmallProject.environment SmallProject.tree
    SmallProject.options SmallProject.frontEnd SmallProject.discovered (.limited 70)
  obtain ⟨_, unit, diagnostics, shown, added, built, said, _, _, _, lists⟩ :=
    last.1.resolve_left different
  cases built
  cases said
  obtain ⟨_, _, new, _, _, _, _, spelt, rfl, _⟩ := id lists
  have length := congrArg List.length spelt
  rw [List.length_map, List.length_map] at length
  rw [← length] at lists
  exact lists

end StrictFiles
