import StrictFiles.Proofs.WrittenLast

/-!
A run does to the configuration what its report has promised. The lines on files to include are the
new entries of the `files` list, text by text and in the same order, and their number is the one that
is confirmed behind the report.
-/

namespace StrictFiles

theorem Utf8.decodeLossy_encode (text : List Char) : decodeLossy (encode text) = text := by
  rw [decodeLossy, pieces_encode, List.map_map]
  exact List.map_id text

/-- A path whose spelling is a text is shown as that text. -/
theorem Path.display_of_text? {path : Path} {text : String} (spelt : path.text? = some text) :
    path.display = text := by
  rw [text?, Option.map_eq_some_iff] at spelt
  obtain ⟨chars, read, rfl⟩ := spelt
  rw [display, ← Utf8.encode_of_decode? read, Utf8.decodeLossy_encode]

theorem Output.written_of_write? {output next : Output} {text : String}
    (accepted : output.write? text = some next) : next.written = output.written ++ text := by
  rw [write?] at accepted
  split at accepted
  · cases accepted
    rfl
  · cases accepted

namespace Span

theorem render_append (color : Bool) (first second : List Span) :
    render color (first ++ second) = render color first ++ render color second := by
  rw [render, render, render, List.map_append, String.join_append]

theorem render_cons (color : Bool) (span : Span) (spans : List Span) :
    render color (span :: spans) = (if color then colored else text) span ++ render color spans := by
  rw [render, render, List.map_cons, String.join_cons]

theorem render_plain (color : Bool) (text : String) : render color [.plain text] = text := by
  cases color <;> simp [render, Span.text, colored]

end Span

namespace Reporter

/-- A text to look at: between marks when there is color. -/
def marked (reporter : Reporter) (text : String) : String :=
  if reporter.options.color then Span.highlightStart ++ text ++ Span.markEnd else text

/-- The lines on entries to include: how many there are, then each of them on a line. -/
def includeText (reporter : Reporter) (entries : List String) : String :=
  let count := entries.length
  let name := reporter.configName
  s!"\nInclude {count} file(s) to '{name}'\n" ++
    String.join (entries.map fun entry => reporter.marked entry ++ "\n")

/-- The line on the number of entries that were added. -/
def updatedText (reporter : Reporter) (added : Nat) : String :=
  let name := reporter.configName
  s!"Updated '{name}' with {added} file(s)\n"

variable (reporter : Reporter)

theorem render_append (first second : List Span) :
    reporter.render (first ++ second) = reporter.render first ++ reporter.render second :=
  Span.render_append _ first second

theorem render_updated (added : Nat) :
    reporter.render (reporter.updated added) = reporter.updatedText added :=
  Span.render_plain _ _

theorem render_highlighted (text : String) (spans : List Span) :
    reporter.render (.highlighted text :: spans) = reporter.marked text ++ reporter.render spans := by
  rw [render, Span.render_cons, marked]
  split <;> rfl

theorem render_plain (text : String) (spans : List Span) :
    reporter.render (.plain text :: spans) = text ++ reporter.render spans := by
  rw [render, Span.render_cons]
  split <;> rfl

theorem render_includeSection (files : List Path) :
    reporter.render (reporter.includeSection files) =
      reporter.includeText (files.map reporter.shown) := by
  have lines : reporter.render
      (files.flatMap fun file => [.highlighted (reporter.shown file), .plain "\n"]) =
        String.join (files.map fun file => reporter.marked (reporter.shown file) ++ "\n") := by
    induction files with
    | nil => rfl
    | cons file rest ih =>
      rw [List.flatMap_cons, List.cons_append, List.cons_append, List.nil_append, render_highlighted,
        render_plain, ih, List.map_cons, String.join_cons, String.append_assoc]
  rw [includeSection, render_plain, lines, includeText, List.length_map, List.map_map]
  rfl

/-- Files whose ways are spelled by texts are shown as these texts. -/
theorem map_shown_of_spelt {files : List Path} {texts : List String}
    (spelt : files.map (fun file => (file.relativeTo reporter.directory).text?) = texts.map some) :
    files.map reporter.shown = texts := by
  induction files generalizing texts with
  | nil =>
    rw [List.map_nil, eq_comm, List.map_eq_nil_iff] at spelt
    rw [spelt, List.map_nil]
  | cons file files ih =>
    cases texts with
    | nil => cases spelt
    | cons text texts =>
      rw [List.map_cons, List.map_cons, List.cons.injEq] at spelt
      rw [List.map_cons, shown, Path.display_of_text? spelt.1, ih spelt.2]

end Reporter

/-- All that a run writes before the lines on files to include. -/
def textBefore (options : RunOptions) (config : Config) (discovered : List Path)
    (found : Classification) : String :=
  let reporter := reporterFor options config
  reporter.render (reporter.analyzing discovered.length) ++
    if options.report.verbose then reporter.render (reporter.verboseSection found.verdicts) else ""

/-- What the report says behind them. -/
def textBehind (options : RunOptions) (config : Config) (found : Classification) : String :=
  let reporter := reporterFor options config
  (if options.report.showRemaining then
      reporter.render (reporter.remainingSection found.partitions) else "") ++
    if found.partitions.hasBroken then
      reporter.render (reporter.brokenSection found.partitions.broken found.verdicts) else ""

/-- The lines on files to include stand in the middle of the report, when there are such files. -/
theorem reportText_eq {options : RunOptions} {config : Config} {found : Classification}
    (nonempty : found.partitions.toInclude ≠ []) (discovered : List Path) :
    reportText options config discovered found =
      textBefore options config discovered found ++
        (reporterFor options config).includeText
          (found.partitions.toInclude.map (reporterFor options config).shown) ++
        textBehind options config found := by
  have present : ¬ found.partitions.toInclude.isEmpty = true := by simpa using nonempty
  have optional (condition : Prop) [Decidable condition] (spans : List Span) :
      (reporterFor options config).render (if condition then spans else []) =
        if condition then (reporterFor options config).render spans else "" := by
    split <;> rfl
  rw [reportText, textBefore, textBehind, Reporter.report]
  simp only [if_neg present, Reporter.render_append, Reporter.render_includeSection, optional,
    String.append_assoc]
  rfl

/-- The entries `new`, which come behind the `old` ones of the loaded document, are what the run has
announced to include, what the update has added, and as many as it has confirmed. -/
structure AsAnnounced (tree : FileTree) (options : RunOptions) (config : Config)
    (discovered : List Path) (output : Output) (found : Classification) (ended : Run)
    (old new : List String) : Prop where
  listed : Config.Lists config.document old
  told : ended.output.written =
    output.written ++ textBefore options config discovered found ++
      (reporterFor options config).includeText new ++ textBehind options config found ++
      (reporterFor options config).updatedText new.length
  counted : new.length = found.partitions.toInclude.length
  added : Config.update tree config.path config.document found.partitions.toInclude =
    (ended.tree, .ok new.length)
  written : ∃ members target file, config.document = .object members ∧
    tree.locate config.path = .ok target ∧
    FileTree.Rewritten tree ended.tree target file
      (Utf8.encode (Config.fileText (Config.withEntries members (old ++ new))))

/-- An updating run of a loaded configuration that succeeds adds the entries that it has announced. No
file to include is passed over on the way: none is listed already, whatever the spelling, and none
comes twice. -/
theorem updatingRun_adds_announced {before : FileTree} {path : Path} {config : Config}
    (loaded : Config.load before path = .ok config) (tree : FileTree) (options : RunOptions)
    (frontEnd : FrontEnd) (discovered : List Path) (output : Output) {found : Classification}
    (classified : (classifyProject frontEnd config discovered options.vendor).result = .ok found) :
    (found.partitions.toInclude.Nodup ∧ ∀ members entries, config.document = .object members →
      Config.entries? members = some entries →
      ∀ file ∈ found.partitions.toInclude, file ∉ Config.listed config.path.parent entries) ∧
    ∀ status, options.update = true → found.partitions.toInclude ≠ [] →
      (runPrepared tree options frontEnd config discovered output).result = .ok status →
      ∃ old new, AsAnnounced tree options config discovered output found
        (runPrepared tree options frontEnd config discovered output) old new := by
  obtain ⟨_, diagnostics, _, rfl⟩ := classifyProject_eq_ok.mp classified
  obtain ⟨members, texts, _, known, rfl⟩ := Config.load_eq_ok.mp loaded
  have divides := partitionsOn_divides options.vendor discovered
    (Config.ofMembers path members texts).declared diagnostics
  have unique := divides.unique _ List.mem_cons_self
  have undeclared (file : Path) (member : file ∈ (partitionsOn options.vendor discovered
      (Config.ofMembers path members texts).declared diagnostics).toInclude) :=
    ((divides.included file).mp member).2.2
  refine ⟨⟨unique, ?_⟩, ?_⟩
  · intro _ entries same listing file member
    cases same
    rw [known, Option.some.injEq] at listing
    subst listing
    rw [Config.listed_strings, ← mem_distinct]
    exact undeclared file member
  · intro status update nonempty succeeded
    obtain ⟨shown, added, reported, updated, confirmed⟩ :=
      runPrepared_confirmed classified ⟨update, nonempty⟩ succeeded
    obtain ⟨_, old, new, target, file, same, listing, spelt, rfl, located, rewritten⟩ :=
      listsAlso_of_update loaded unique undeclared updated
    have announced := Reporter.map_shown_of_spelt
      (reporterFor options (Config.ofMembers path members texts)) spelt
    refine ⟨old, new, ⟨_, same, listing⟩, ?_, ?_, updated, _, target, file, same, located, rewritten⟩
    · rw [Output.written_of_write? confirmed, Output.written_of_write? reported.accepted,
        reportText_eq nonempty, announced, Reporter.render_updated]
      simp only [String.append_assoc]
    · rw [← announced, List.length_map]

/-- The run of the small project announces the file that passes, adds it, and confirms one entry. -/
theorem updatingRun_adds_announced_smallProject :
    ∃ found old new,
      (classifyProject SmallProject.frontEnd SmallProject.loaded SmallProject.discovered
        SmallProject.options.vendor).result = .ok found ∧
      found.partitions.toInclude = [SmallProject.passing] ∧ new.length = 1 ∧
      AsAnnounced SmallProject.tree SmallProject.options SmallProject.loaded SmallProject.discovered
        .unlimited found (runPrepared SmallProject.tree SmallProject.options SmallProject.frontEnd
          SmallProject.loaded SmallProject.discovered .unlimited) old new := by
  have succeeded : (runPrepared SmallProject.tree SmallProject.options SmallProject.frontEnd
      SmallProject.loaded SmallProject.discovered .unlimited).result = .ok .clean := by
    cbv
  obtain ⟨found, classified, _⟩ := runPrepared_ok succeeded
  have promoted : found.partitions.toInclude = [SmallProject.passing] := by
    obtain ⟨_, diagnostics, answer, rfl⟩ := classifyProject_eq_ok.mp classified
    cases answer
    decide
  obtain ⟨_, announces⟩ := updatingRun_adds_announced SmallProject.loads SmallProject.tree
    SmallProject.options SmallProject.frontEnd SmallProject.discovered .unlimited classified
  obtain ⟨old, new, announced⟩ := announces .clean rfl (by simp [promoted]) succeeded
  refine ⟨found, old, new, classified, promoted, ?_, announced⟩
  rw [announced.counted, promoted, List.length_singleton]

end StrictFiles
