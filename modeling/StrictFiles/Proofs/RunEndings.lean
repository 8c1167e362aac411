import StrictFiles.Check.Run
import StrictFiles.Proofs.ConfigUpdate

/-!
The ways a run over discovered files ends. Up to the report nothing is changed; what comes after it
is decided by the partitions alone.
-/

namespace StrictFiles

section Prepared

variable (tree : FileTree) (options : RunOptions) (frontEnd : FrontEnd) (config : Config)
  (discovered : List Path) (output : Output)

/-- The output after the files to analyze are announced. -/
def announced? : Option Output :=
  output.write? ((reporterFor options config).render
    ((reporterFor options config).analyzing discovered.length))

/-- The output after the report, which follows `announced`. -/
def reported? (announced : Output) (found : Classification) : Option Output :=
  announced.write? ((reporterFor options config).render
    ((reporterFor options config).report found.partitions found.verdicts))

/-- The output after the number of added files is written, which follows `shown`. -/
def confirmed? (shown : Output) (added : Nat) : Option Output :=
  shown.write? ((reporterFor options config).render ((reporterFor options config).updated added))

/-- The ways a run ends before its report is out. -/
inductive CutShort : Run → Prop
  | unannounced (full : announced? options config discovered output = none) :
    CutShort ⟨tree, output, [], .error .outputFull⟩
  | unclassified {announced : Output} {error : RunError}
    (written : announced? options config discovered output = some announced)
    (failed : (classifyProject frontEnd config discovered options.vendor).result = .error error) :
    CutShort ⟨tree, announced,
      (classifyProject frontEnd config discovered options.vendor).requests, .error error⟩
  | unreported {announced : Output} {found : Classification}
    (written : announced? options config discovered output = some announced)
    (classified : (classifyProject frontEnd config discovered options.vendor).result = .ok found)
    (full : reported? options config announced found = none) :
    CutShort ⟨tree, announced,
      (classifyProject frontEnd config discovered options.vendor).requests, .error .outputFull⟩

/-- The run comes to the end of its report: `shown` is the output then. -/
structure Reported (found : Classification) (shown : Output) : Prop where
  classified : (classifyProject frontEnd config discovered options.vendor).result = .ok found
  complete : (announced? options config discovered output).bind
    (fun announced => reported? options config announced found) = some shown

/-- An update is wanted, and there is something to add. -/
def Promotes (partitions : Partitions) : Prop :=
  options.update = true ∧ partitions.toInclude ≠ []

/-- The ways a run ends after its report. Only an update changes the tree. -/
inductive Concluded (requests : List Request) (partitions : Partitions) (shown : Output) : Run → Prop
  | kept (idle : ¬ Promotes options partitions) :
    Concluded requests partitions shown ⟨tree, shown, requests, .ok (RunStatus.of partitions)⟩
  | refused {error : UpdateError} (promotes : Promotes options partitions)
    (failed : Config.update tree config.path config.document partitions.toInclude =
      (tree, .error error)) :
    Concluded requests partitions shown ⟨tree, shown, requests, .error (.update error)⟩
  | unconfirmed {after : FileTree} {added : Nat} (promotes : Promotes options partitions)
    (updated : Config.update tree config.path config.document partitions.toInclude =
      (after, .ok added))
    (full : confirmed? options config shown added = none) :
    Concluded requests partitions shown ⟨after, shown, requests, .error .outputFull⟩
  | updated {after : FileTree} {added : Nat} {last : Output} (promotes : Promotes options partitions)
    (updated : Config.update tree config.path config.document partitions.toInclude =
      (after, .ok added))
    (confirmed : confirmed? options config shown added = some last) :
    Concluded requests partitions shown ⟨after, last, requests, .ok (RunStatus.of partitions)⟩

end Prepared

section

variable {options : RunOptions} {frontEnd : FrontEnd} {config : Config} {discovered : List Path}
  {output : Output}

theorem promotes_iff {partitions : Partitions} :
    (options.update && !partitions.toInclude.isEmpty) = true ↔ Promotes options partitions := by
  rw [Bool.and_eq_true, Bool.not_eq_true', Promotes, ← Bool.not_eq_true, List.isEmpty_iff]

theorem concluded_of_reported (tree : FileTree) {found : Classification} {shown : Output}
    (reported : Reported options frontEnd config discovered output found shown) :
    Concluded tree options config
      (classifyProject frontEnd config discovered options.vendor).requests found.partitions shown
      (runPrepared tree options frontEnd config discovered output) := by
  obtain ⟨announced, written, complete⟩ := Option.bind_eq_some_iff.mp reported.complete
  rw [announced?] at written
  rw [reported?] at complete
  rw [runPrepared]
  dsimp only
  rw [written]
  dsimp only
  rw [reported.classified]
  dsimp only
  rw [complete]
  dsimp only
  split
  · rename_i promotes
    rw [promotes_iff] at promotes
    rw [promote]
    rcases update : Config.update tree config.path config.document found.partitions.toInclude with
      ⟨after, error | added⟩
    · have unchanged := Config.update_error update
      subst unchanged
      exact .refused promotes update
    · dsimp only
      cases confirmed : shown.write? ((reporterFor options config).render
          ((reporterFor options config).updated added)) with
      | none => exact .unconfirmed promotes update confirmed
      | some last => exact .updated promotes update confirmed
  · rename_i idle
    rw [promotes_iff] at idle
    exact .kept idle

/-- A run fails before its report is out, or ends in one of the ways that are left after it. -/
theorem runPrepared_ends (tree : FileTree) (options : RunOptions) (frontEnd : FrontEnd)
    (config : Config) (discovered : List Path) (output : Output) :
    CutShort tree options frontEnd config discovered output
        (runPrepared tree options frontEnd config discovered output) ∨
      ∃ found shown, Reported options frontEnd config discovered output found shown ∧
        Concluded tree options config
          (classifyProject frontEnd config discovered options.vendor).requests found.partitions shown
          (runPrepared tree options frontEnd config discovered output) := by
  generalize ends : runPrepared tree options frontEnd config discovered output = ended
  have whole := ends
  rw [runPrepared] at ends
  dsimp only at ends
  split at ends
  · rename_i full
    subst ends
    exact .inl (.unannounced full)
  rename_i announced written
  split at ends
  · rename_i error failed
    subst ends
    exact .inl (.unclassified written failed)
  rename_i verdicts partitions classified
  split at ends
  · rename_i full
    subst ends
    exact .inl (.unreported written classified full)
  rename_i shown complete
  have reported : Reported options frontEnd config discovered output ⟨verdicts, partitions⟩ shown :=
    ⟨classified, Option.bind_eq_some_iff.mpr ⟨announced, written, complete⟩⟩
  have concluded := concluded_of_reported tree reported
  rw [whole] at concluded
  exact .inr ⟨_, shown, reported, concluded⟩

theorem CutShort.failed {tree : FileTree} {ended : Run}
    (cut : CutShort tree options frontEnd config discovered output ended) :
    ended.tree = tree ∧ ∃ error, ended.result = .error error := by
  cases cut <;> exact ⟨rfl, _, rfl⟩

/-- Nothing that comes behind the report asks the front end. -/
theorem Concluded.asked {tree : FileTree} {requests : List Request} {partitions : Partitions}
    {shown : Output} {ended : Run}
    (concluded : Concluded tree options config requests partitions shown ended) :
    ended.requests = requests := by
  cases concluded <;> rfl

/-- However a run ends, it has left the tree alone or has updated the configuration in it. -/
theorem runPrepared_tree (tree : FileTree) (options : RunOptions) (frontEnd : FrontEnd)
    (config : Config) (discovered : List Path) (output : Output) :
    (runPrepared tree options frontEnd config discovered output).tree = tree ∨
      ∃ found added, (classifyProject frontEnd config discovered options.vendor).result = .ok found ∧
        Promotes options found.partitions ∧
        Config.update tree config.path config.document found.partitions.toInclude =
          ((runPrepared tree options frontEnd config discovered output).tree, .ok added) := by
  rcases runPrepared_ends tree options frontEnd config discovered output with
    cut | ⟨found, shown, reported, concluded⟩
  · exact .inl cut.failed.1
  generalize runPrepared tree options frontEnd config discovered output = ended at *
  cases concluded with
  | kept => exact .inl rfl
  | refused => exact .inl rfl
  | unconfirmed promotes updated => exact .inr ⟨found, _, reported.classified, promotes, updated⟩
  | updated promotes updated => exact .inr ⟨found, _, reported.classified, promotes, updated⟩

/-- A run that succeeds has reported. It changes the tree by an update, or not at all. -/
theorem runPrepared_ok {tree : FileTree} {status : RunStatus}
    (succeeded : (runPrepared tree options frontEnd config discovered output).result = .ok status) :
    ∃ found, (classifyProject frontEnd config discovered options.vendor).result = .ok found ∧
      (runPrepared tree options frontEnd config discovered output).requests =
        (classifyProject frontEnd config discovered options.vendor).requests ∧
      status = RunStatus.of found.partitions ∧
      (¬ Promotes options found.partitions ∧
          (runPrepared tree options frontEnd config discovered output).tree = tree ∨
        Promotes options found.partitions ∧ ∃ added,
          Config.update tree config.path config.document found.partitions.toInclude =
            ((runPrepared tree options frontEnd config discovered output).tree, .ok added)) := by
  rcases runPrepared_ends tree options frontEnd config discovered output with
    cut | ⟨found, shown, reported, concluded⟩
  · obtain ⟨_, error, failed⟩ := cut.failed
    rw [failed] at succeeded
    cases succeeded
  · refine ⟨found, reported.classified, ?_⟩
    generalize runPrepared tree options frontEnd config discovered output = ended at *
    cases concluded with
    | kept idle =>
      cases succeeded
      exact ⟨rfl, rfl, .inl ⟨idle, rfl⟩⟩
    | refused => cases succeeded
    | unconfirmed => cases succeeded
    | updated promotes updated =>
      cases succeeded
      exact ⟨rfl, rfl, .inr ⟨promotes, _, updated⟩⟩

/-- A run fails on its output, on the update of the configuration, or on the classification. -/
theorem runPrepared_error {tree : FileTree} {error : RunError}
    (failed : (runPrepared tree options frontEnd config discovered output).result = .error error) :
    error = .outputFull ∨ (∃ cause, error = .update cause) ∨
      (classifyProject frontEnd config discovered options.vendor).result = .error error := by
  rcases runPrepared_ends tree options frontEnd config discovered output with
    cut | ⟨found, shown, _, concluded⟩
  · generalize runPrepared tree options frontEnd config discovered output = ended at *
    cases cut with
    | unannounced =>
      cases failed
      exact .inl rfl
    | unclassified _ refused =>
      cases failed
      exact .inr (.inr refused)
    | unreported =>
      cases failed
      exact .inl rfl
  · generalize runPrepared tree options frontEnd config discovered output = ended at *
    cases concluded with
    | kept => cases failed
    | refused =>
      cases failed
      exact .inr (.inl ⟨_, rfl⟩)
    | unconfirmed =>
      cases failed
      exact .inl rfl
    | updated => cases failed

/-- A run that promotes and succeeds has reported, has updated the configuration, and has confirmed how
many entries are new. -/
theorem runPrepared_confirmed {tree : FileTree} {status : RunStatus} {found : Classification}
    (classified : (classifyProject frontEnd config discovered options.vendor).result = .ok found)
    (promotes : Promotes options found.partitions)
    (succeeded : (runPrepared tree options frontEnd config discovered output).result = .ok status) :
    ∃ shown added, Reported options frontEnd config discovered output found shown ∧
      Config.update tree config.path config.document found.partitions.toInclude =
        ((runPrepared tree options frontEnd config discovered output).tree, .ok added) ∧
      confirmed? options config shown added =
        some (runPrepared tree options frontEnd config discovered output).output := by
  rcases runPrepared_ends tree options frontEnd config discovered output with
    cut | ⟨known, shown, reported, concluded⟩
  · obtain ⟨_, error, failed⟩ := cut.failed
    rw [failed] at succeeded
    cases succeeded
  · have same : known = found := by
      have both := reported.classified.symm.trans classified
      exact Except.ok.inj both
    subst same
    refine ⟨shown, ?_⟩
    generalize runPrepared tree options frontEnd config discovered output = ended at *
    cases concluded with
    | kept idle => exact (idle promotes).elim
    | refused => cases succeeded
    | unconfirmed => cases succeeded
    | updated _ updated confirmed => exact ⟨_, reported, updated, confirmed⟩

end

end StrictFiles
