import Mathlib
import StrictFiles.Proofs.PreparedRun
import StrictFiles.Proofs.Promotion

/-!
An updating run reaches a fixed point. When it is repeated on the tree it left, it finds the same files,
sorts them the same way but for those it has promoted, and leaves everything as it is.
-/

namespace StrictFiles

namespace Output

/-- An output without a limit takes any text, and stays without one. -/
theorem write?_of_no_room {output : Output} (endless : output.room = none) (text : String) :
    ∃ next, output.write? text = some next ∧ next.room = none := by
  refine ⟨{ output with written := output.written ++ text }, ?_, endless⟩
  rw [write?, endless]
  rfl

end Output

/-- A run with endless output and nothing to promote only reports. -/
theorem runPrepared_idle (tree : FileTree) {options : RunOptions} {frontEnd : FrontEnd}
    {config : Config} {discovered : List Path} {output : Output} {found : Classification}
    (endless : output.room = none)
    (classified : (classifyProject frontEnd config discovered options.vendor).result = .ok found)
    (nothing : found.partitions.toInclude = []) :
    ∃ shown, runPrepared tree options frontEnd config discovered output =
      ⟨tree, shown, (classifyProject frontEnd config discovered options.vendor).requests,
        .ok (RunStatus.of found.partitions)⟩ := by
  obtain ⟨announced, written, stillEndless⟩ := Output.write?_of_no_room endless
    ((reporterFor options config).render ((reporterFor options config).analyzing discovered.length))
  obtain ⟨shown, complete, _⟩ := Output.write?_of_no_room stillEndless
    ((reporterFor options config).render
      ((reporterFor options config).report found.partitions found.verdicts))
  have reported : Reported options frontEnd config discovered output found shown := by
    refine ⟨classified, ?_⟩
    rw [announced?, written, Option.bind_some, reported?, complete]
  have concluded := concluded_of_reported tree reported
  refine ⟨shown, ?_⟩
  generalize runPrepared tree options frontEnd config discovered output = ended at *
  cases concluded with
  | kept => rfl
  | refused promotes => exact (promotes.2 nothing).elim
  | unconfirmed promotes => exact (promotes.2 nothing).elim
  | updated promotes => exact (promotes.2 nothing).elim

/-- Nothing is left to promote, and what was promoted is now declared. -/
structure Settles (first second : Partitions) : Prop where
  toInclude : second.toInclude = []
  broken : second.broken = first.broken
  remaining : second.remaining = first.remaining
  alreadyOk : ∀ file, file ∈ second.alreadyOk ↔ file ∈ first.alreadyOk ∨ file ∈ first.toInclude

theorem Settles.status {first second : Partitions} (settles : Settles first second) :
    RunStatus.of second = RunStatus.of first := by
  rw [RunStatus.of, RunStatus.of, Partitions.hasBroken, Partitions.hasBroken, settles.broken]

/-- Declaring what passes settles the partitions. -/
theorem partitionsOn_settles {vendor : VendorFilter} {discovered declared grown : List Path}
    {diagnostics : List Diagnostic}
    (growth : ∀ file, file ∈ grown ↔
      file ∈ declared ∨ file ∈ (partitionsOn vendor discovered declared diagnostics).toInclude) :
    Settles (partitionsOn vendor discovered declared diagnostics)
      (partitionsOn vendor discovered grown diagnostics) := by
  have before := partitionsOn_divides vendor discovered declared diagnostics
  have after := partitionsOn_divides vendor discovered grown diagnostics
  -- A failing file is not promoted, so declaring more files leaves it where it was.
  have sameFailing (file : Path) (fails : Failing diagnostics file) :
      file ∈ grown ↔ file ∈ declared := by
    rw [growth, before.included]
    constructor
    · rintro (known | ⟨_, passes, _⟩)
      · exact known
      · exact (passes fails).elim
    · exact .inl
  refine ⟨?_, ?_, ?_, ?_⟩
  · rw [List.eq_nil_iff_forall_not_mem]
    intro file member
    obtain ⟨found, passes, undeclared⟩ := (after.included file).mp member
    have fresh : file ∉ declared := fun known => undeclared ((growth file).mpr (.inl known))
    have promoted := (before.included file).mpr ⟨found, passes, fresh⟩
    exact undeclared ((growth file).mpr (.inr promoted))
  · apply List.filter_congr
    intro file _
    by_cases fails : Failing diagnostics file
    · simp only [decide_eq_decide.mpr (sameFailing file fails)]
    · simp [fails]
  · apply List.filter_congr
    intro file _
    by_cases fails : Failing diagnostics file
    · simp only [decide_eq_decide.mpr (sameFailing file fails)]
    · simp [fails]
  · intro file
    rw [after.stayed, before.stayed, before.included, growth, before.included]
    by_cases known : file ∈ declared
    · simp [known]
    · simp only [known, false_or, not_false_eq_true, and_true, and_false]
      constructor
      · exact fun member => member.2.2
      · exact fun member => ⟨member.1, member.2, member⟩

/-- When the document that is written for these files is read, it comes back as it was. -/
def ReadsBack (config : Config) (files : List Path) : Prop :=
  files ≠ [] → ∀ grown added,
    Config.addToDocument config.document config.path.parent files = .ok (grown, added) →
    Json.read? (Config.fileText grown) = some grown

/-- After an update the same files are discovered, and the configuration declares those that were
added behind the others. -/
theorem prepare_updated {environment : Environment} {options : RunOptions} {config : Config}
    {discovered files : List Path} {after : FileTree} {added : Nat}
    (prepared : prepare environment options = .ok (config, discovered))
    (within : ∀ file ∈ files, file ∈ discovered) (unique : files.Nodup)
    (fresh : ∀ file ∈ files, file ∉ config.declared) (nonempty : files ≠ [])
    (readsBack : ReadsBack config files)
    (updated : Config.update environment.tree config.path config.document files =
      (after, .ok added)) :
    ∃ grown, prepare { environment with tree := after } options = .ok (grown, discovered) ∧
      grown.compilerOptions = config.compilerOptions ∧
      grown.declared = config.declared ++ files := by
  have absolute (file : Path) (member : file ∈ files) : file.isAbsolute :=
    discovered_absolute prepared file (within file member)
  obtain ⟨path, root, atPath, atRoot, loaded, found, discoveredSome⟩ := prepare_eq_ok.mp prepared
  obtain ⟨members, texts, read, entries, rfl⟩ := Config.load_eq_ok.mp loaded
  have undeclared : ∀ file ∈ files, file ∉ texts.map (Config.entryPath path.parent) := by
    intro file member
    rw [← mem_distinct]
    exact fresh file member
  obtain ⟨new, lead, growth, same, content⟩ :=
    Config.update_grows read entries absolute unique undeclared updated
  have known := Config.readDocument_of_printed content (readsBack nonempty _ _ growth)
  rw [← lead] at unique undeclared
  have put := Config.ofMembers_put path members unique undeclared
  refine ⟨_, prepare_eq_ok.mpr ⟨path, root, atPath, atRoot, Config.load_eq_ok.mpr
    ⟨_, texts ++ new, known, Config.entries?_put members _, rfl⟩, ?_, discoveredSome⟩, ?_, ?_⟩
  · rw [← found]
    exact same.discover root options.extensions
  · rw [put]
  · rw [put, lead]

/-- What an updating run leaves is prepared like what it started from, with the files it included among
the declared ones. -/
theorem prepare_again {environment : Environment} {options : RunOptions} {config : Config}
    {discovered : List Path} {diagnostics : List Diagnostic} {after : FileTree}
    (prepared : prepare environment options = .ok (config, discovered))
    (update : options.update = true)
    (readsBack : ReadsBack config
      (partitionsOn options.vendor discovered config.declared diagnostics).toInclude)
    (outcome : ¬ Promotes options
          (partitionsOn options.vendor discovered config.declared diagnostics) ∧
        after = environment.tree ∨
      Promotes options (partitionsOn options.vendor discovered config.declared diagnostics) ∧
        ∃ added, Config.update environment.tree config.path config.document
          (partitionsOn options.vendor discovered config.declared diagnostics).toInclude =
            (after, .ok added)) :
    ∃ grown, prepare { environment with tree := after } options = .ok (grown, discovered) ∧
      grown.compilerOptions = config.compilerOptions ∧
      ∀ file, file ∈ grown.declared ↔ file ∈ config.declared ∨
        file ∈ (partitionsOn options.vendor discovered config.declared diagnostics).toInclude := by
  have divides := partitionsOn_divides options.vendor discovered config.declared diagnostics
  rcases outcome with ⟨idle, rfl⟩ | ⟨⟨_, promotes⟩, added, updated⟩
  · have nothing : (partitionsOn options.vendor discovered config.declared
        diagnostics).toInclude = [] := by
      by_contra fresh
      exact idle ⟨update, fresh⟩
    exact ⟨config, prepared, rfl, by simp [nothing]⟩
  · obtain ⟨grown, preparedAgain, sameOptions, declared⟩ := prepare_updated prepared
      (fun file member => ((divides.included file).mp member).1.1)
      (divides.unique _ List.mem_cons_self)
      (fun file member => ((divides.included file).mp member).2.2) promotes readsBack updated
    exact ⟨grown, preparedAgain, sameOptions, fun file => by rw [declared, List.mem_append]⟩

/-- What a run works on, and how it sorts it. -/
structure Finds (environment : Environment) (options : RunOptions) (frontEnd : FrontEnd)
    (config : Config) (discovered : List Path) (found : Classification) : Prop where
  prepared : prepare environment options = .ok (config, discovered)
  classified : (classifyProject frontEnd config discovered options.vendor).result = .ok found

/-- An updating run that succeeds, and the same run on what it leaves. When the configuration reads back
as it was written, the second run succeeds in the same way, asks the front end the same, and changes
nothing. -/
theorem run_settles {environment : Environment} {options : RunOptions} {frontEnd again : FrontEnd}
    {output nextOutput : Output} {status : RunStatus} (update : options.update = true)
    (endless : nextOutput.room = none)
    (sameAnswer : ∀ files compilerOptions,
      again.answer files compilerOptions = frontEnd.answer files compilerOptions)
    (succeeded : (run environment options frontEnd output).result = .ok status) :
    ∃ config discovered found, Finds environment options frontEnd config discovered found ∧
      (ReadsBack config found.partitions.toInclude →
        let first := run environment options frontEnd output
        let left := { environment with tree := first.tree }
        let second := run left options again nextOutput
        second.result = .ok status ∧ second.requests = first.requests ∧
          second.tree = first.tree ∧
          ∃ grown foundAgain, Finds left options again grown discovered foundAgain ∧
            Settles found.partitions foundAgain.partitions) := by
  cases prepared : prepare environment options with
  | error error =>
    rw [run, prepared] at succeeded
    cases succeeded
  | ok start =>
    obtain ⟨config, discovered⟩ := start
    rw [run_of_prepared prepared] at succeeded ⊢
    obtain ⟨found, classified, requests, rfl, outcome⟩ := runPrepared_ok succeeded
    refine ⟨config, discovered, found, ⟨prepared, classified⟩, ?_⟩
    intro readsBack
    generalize runPrepared environment.tree options frontEnd config discovered output = first at *
    dsimp only
    obtain ⟨nonempty, diagnostics, answer, rfl⟩ := classifyProject_eq_ok.mp classified
    obtain ⟨grown, preparedAgain, sameOptions, growth⟩ :=
      prepare_again prepared update readsBack outcome
    have settles := partitionsOn_settles growth
    have classifiedAgain : (classifyProject again grown discovered options.vendor).result =
        .ok ⟨verdictsOn options.vendor discovered diagnostics,
          partitionsOn options.vendor discovered grown.declared diagnostics⟩ :=
      classifyProject_eq_ok.mpr ⟨nonempty, diagnostics, by rw [sameAnswer, sameOptions, answer], rfl⟩
    obtain ⟨shown, second⟩ := runPrepared_idle first.tree endless classifiedAgain settles.toInclude
    rw [run_of_prepared preparedAgain, second, requests]
    refine ⟨?_, ?_, rfl, grown, _, ⟨preparedAgain, classifiedAgain⟩, settles⟩
    · rw [settles.status]
    · rw [classifyProject, classifyProject, classify, classify, sameOptions]

/-- The small project is promoted by the first run, and left alone by the second. -/
theorem run_settles_smallProject :
    let first := run SmallProject.environment SmallProject.options SmallProject.frontEnd .unlimited
    let second := run { SmallProject.environment with tree := first.tree } SmallProject.options
      SmallProject.frontEnd .unlimited
    first.result = .ok .clean ∧ second.result = .ok .clean ∧ second.tree = first.tree := by
  have prepared := run_of_prepared SmallProject.prepares SmallProject.frontEnd .unlimited
  have succeeded : (run SmallProject.environment SmallProject.options SmallProject.frontEnd
      .unlimited).result = .ok .clean := by
    rw [prepared]
    cbv
  have endless : Output.unlimited.room = none := rfl
  obtain ⟨config, discovered, found, finds, settles⟩ :=
    run_settles rfl endless (fun _ _ => rfl) succeeded
  have known := finds.prepared
  rw [SmallProject.prepares] at known
  cases known
  obtain ⟨_, diagnostics, answer, rfl⟩ := classifyProject_eq_ok.mp finds.classified
  cases answer
  have readsBack : ReadsBack SmallProject.loaded [SmallProject.passing] := by
    intro _ grown added growth
    have grows : Config.addToDocument SmallProject.loaded.document SmallProject.loaded.path.parent
        [SmallProject.passing] = .ok (Config.withEntries [] ["./a.ts", "b.ts"], 1) := by
      cbv
    rw [grows] at growth
    cases growth
    cbv
  obtain ⟨same, _, unchanged, _⟩ := settles readsBack
  exact ⟨succeeded, same, unchanged⟩

end StrictFiles
