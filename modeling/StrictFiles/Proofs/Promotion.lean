import Mathlib
import StrictFiles.Proofs.FourParts
import StrictFiles.Proofs.PreparedRun
import StrictFiles.Proofs.RunEndings

/-!
Promotion from end to end. A run that updates leaves a configuration whose entries are the old ones
and then one for each file that passes and was not declared, whatever else was reported.
-/

namespace StrictFiles

/-- A file that was found, is not vendored and does not fail. -/
def Passes (vendor : VendorFilter) (discovered : List Path) (diagnostics : List Diagnostic)
    (file : Path) : Prop :=
  (file ∈ discovered ∧ vendor.covers file = false) ∧ ¬ Failing diagnostics file

/-- What is declared and what is to be included are what is declared and what passes. -/
theorem Partitions.Divides.promoted {partitions : Partitions} {vendor : VendorFilter}
    {discovered declared : List Path} {diagnostics : List Diagnostic}
    (divides : partitions.Divides vendor discovered declared diagnostics) (file : Path) :
    file ∈ declared ∨ file ∈ partitions.toInclude ↔
      file ∈ declared ∨ Passes vendor discovered diagnostics file := by
  have included := divides.included file
  constructor
  · rintro (known | promoted)
    · exact .inl known
    · obtain ⟨found, passes, _⟩ := included.mp promoted
      exact .inr ⟨found, passes⟩
  · intro either
    by_cases known : file ∈ declared
    · exact .inl known
    · obtain ⟨found, passes⟩ := either.resolve_left known
      exact .inr (included.mpr ⟨found, passes, known⟩)

/-- Entries have grown from `old` by exactly the files that pass. -/
structure GrownBy (passes : Path → Prop) (directory : Path) (declared : List Path)
    (old added : List String) : Prop where
  exact : ∀ file, file ∈ (old ++ added).map (Config.entryPath directory) ↔
    file ∈ declared ∨ passes file
  unique : (added.map (Config.entryPath directory)).Nodup
  fresh : ∀ file ∈ added.map (Config.entryPath directory), file ∉ old.map (Config.entryPath directory)

/-- An updating run that succeeds appends one entry for each file to include, in order. -/
theorem runPrepared_appends {tree : FileTree} {path : Path} {config : Config} {options : RunOptions}
    {frontEnd : FrontEnd} {discovered : List Path} {output : Output} {diagnostics : List Diagnostic}
    {status : RunStatus} (loaded : Config.load tree path = .ok config)
    (absolute : ∀ file ∈ discovered, file.isAbsolute) (update : options.update = true)
    (answer : frontEnd.answer (filesToCheck options.vendor discovered) config.compilerOptions =
      .ok diagnostics)
    (succeeded : (runPrepared tree options frontEnd config discovered output).result = .ok status) :
    ∃ document old new,
      Config.Holds (runPrepared tree options frontEnd config discovered output).tree path document ∧
      Config.Lists config.document old ∧ Config.Lists document (old ++ new) ∧
      config.declared = distinct (old.map (Config.entryPath config.directory)) ∧
      new.map (Config.entryPath config.directory) =
        (partitionsOn options.vendor discovered config.declared diagnostics).toInclude ∧
      (new = [] → (runPrepared tree options frontEnd config discovered output).tree = tree) := by
  obtain ⟨members, texts, read, entries, rfl⟩ := Config.load_eq_ok.mp loaded
  obtain ⟨found, classified, _, _, outcome⟩ := runPrepared_ok succeeded
  obtain ⟨_, known, sameAnswer, rfl⟩ := classifyProject_eq_ok.mp classified
  rw [answer] at sameAnswer
  cases sameAnswer
  generalize runPrepared tree options frontEnd _ discovered output = ended at *
  have divides := partitionsOn_divides options.vendor discovered
    (Config.ofMembers path members texts).declared diagnostics
  have listed : Config.Lists (.object members) texts := ⟨members, rfl, entries⟩
  rcases outcome with ⟨idle, unchanged⟩ | ⟨⟨_, promotes⟩, added, updated⟩
  · have nothing : (partitionsOn options.vendor discovered
        (Config.ofMembers path members texts).declared diagnostics).toInclude = [] := by
      by_contra fresh
      exact idle ⟨update, fresh⟩
    have held : Config.Holds ended.tree path (.object members) := .read (by rwa [unchanged])
    exact ⟨.object members, texts, [], held, listed, by rwa [List.append_nil], rfl, nothing.symm,
      fun _ => unchanged⟩
  · have fresh (file : Path) (member : file ∈ (partitionsOn options.vendor discovered
        (Config.ofMembers path members texts).declared diagnostics).toInclude) :
        file ∉ texts.map (Config.entryPath path.parent) := by
      have undeclared := ((divides.included file).mp member).2.2
      rwa [Config.ofMembers, mem_distinct] at undeclared
    obtain ⟨new, lead, _, _, content⟩ := Config.update_grows read entries
      (fun file member => absolute file ((divides.included file).mp member).1.1)
      (divides.unique _ List.mem_cons_self) fresh updated
    have nonempty : new ≠ [] := by
      rintro rfl
      exact promotes lead.symm
    exact ⟨Config.withEntries members (texts ++ new), texts, new, .printed content, listed,
      Config.lists_withEntries members (texts ++ new), rfl, lead, fun none => (nonempty none).elim⟩

/-- An updating run that succeeds promotes the files that pass, and no others. The old entries stay in
front as they are, and when there is nothing to promote the tree is not touched. -/
theorem runPrepared_promotes {tree : FileTree} {path : Path} {config : Config} {options : RunOptions}
    {frontEnd : FrontEnd} {discovered : List Path} {output : Output} {diagnostics : List Diagnostic}
    {status : RunStatus} (loaded : Config.load tree path = .ok config)
    (absolute : ∀ file ∈ discovered, file.isAbsolute) (update : options.update = true)
    (answer : frontEnd.answer (filesToCheck options.vendor discovered) config.compilerOptions =
      .ok diagnostics)
    (succeeded : (runPrepared tree options frontEnd config discovered output).result = .ok status) :
    ∃ document old added,
      Config.Holds (runPrepared tree options frontEnd config discovered output).tree path document ∧
      Config.Lists config.document old ∧ Config.Lists document (old ++ added) ∧
      GrownBy (Passes options.vendor discovered diagnostics) config.directory config.declared old
        added ∧
      ((∀ file, Passes options.vendor discovered diagnostics file → file ∈ config.declared) →
        (runPrepared tree options frontEnd config discovered output).tree = tree) := by
  obtain ⟨document, old, new, held, listed, lists, declared, lead, unchanged⟩ :=
    runPrepared_appends loaded absolute update answer succeeded
  have divides := partitionsOn_divides options.vendor discovered config.declared diagnostics
  have known (file : Path) :
      file ∈ config.declared ↔ file ∈ old.map (Config.entryPath config.directory) := by
    rw [declared, mem_distinct]
  refine ⟨document, old, new, held, listed, lists, ⟨?_, ?_, ?_⟩, ?_⟩
  · intro file
    rw [List.map_append, List.mem_append, ← known, lead]
    exact divides.promoted file
  · rw [lead]
    exact divides.unique _ List.mem_cons_self
  · intro file member
    rw [lead] at member
    rw [← known]
    exact ((divides.included file).mp member).2.2
  · intro all
    apply unchanged
    rw [← List.map_eq_nil_iff (f := Config.entryPath config.directory), lead,
      List.eq_nil_iff_forall_not_mem]
    intro file member
    obtain ⟨found, passes, undeclared⟩ := (divides.included file).mp member
    exact undeclared (all file ⟨found, passes⟩)

/-- Of the small project the file that passes ends up listed, the failing one does not. -/
theorem runPrepared_promotes_smallProject :
    let left := (runPrepared SmallProject.tree SmallProject.options SmallProject.frontEnd
      SmallProject.loaded SmallProject.discovered .unlimited).tree
    ∃ document entries, Config.Holds left SmallProject.config document ∧
      Config.Lists document entries ∧
      SmallProject.passing ∈ entries.map (Config.entryPath SmallProject.loaded.directory) ∧
      SmallProject.failing ∉ entries.map (Config.entryPath SmallProject.loaded.directory) := by
  have succeeded : (runPrepared SmallProject.tree SmallProject.options SmallProject.frontEnd
      SmallProject.loaded SmallProject.discovered .unlimited).result = .ok .clean := by
    cbv
  obtain ⟨document, old, added, held, _, lists, grown, _⟩ :=
    runPrepared_promotes SmallProject.loads (by decide) rfl rfl succeeded
  have passes : Passes SmallProject.options.vendor SmallProject.discovered SmallProject.diagnostics
      SmallProject.passing := by
    exact ⟨by decide, by decide⟩
  refine ⟨document, old ++ added, held, lists, (grown.exact _).mpr (.inr passes), ?_⟩
  intro listed
  rcases (grown.exact _).mp listed with known | wrong
  · exact absurd known (by decide)
  · exact wrong.2 (by decide)

end StrictFiles
