import StrictFiles.Check.Report
import StrictFiles.Check.RunError
import StrictFiles.Environment

/-!
A whole run: load the configuration, discover the files, classify them, reconcile them with the
declared ones, report, and write the newly passing files back. Nothing is written before the report
is out.
-/

namespace StrictFiles

structure RunOptions where
  /-- The path text of the configuration. -/
  config : Bytes
  /-- The path text of the directory with the source files. -/
  source : Bytes
  /-- Whether newly passing files are added to the configuration. -/
  update : Bool
  vendor : VendorFilter
  extensions : List String
  report : ReportOptions

/-- What a run leaves: the tree, the report so far, what the front end was asked, and how it went. -/
structure Run where
  tree : FileTree
  output : Output
  requests : List Request
  result : Except RunError RunStatus

/-- What a completed classification found. -/
structure Classification where
  verdicts : Verdicts
  partitions : Partitions

def configName : List Name :=
  (Name.ofBytes? (Utf8.ofString "tsconfig.json")).toList

/-- The nearest configuration at or above a directory. -/
def findConfig (tree : FileTree) (directory : Path) : Except RunError Path :=
  match tree.findUpward? directory configName with
  | some path => .ok path
  | none => .error (.missingProject directory)

/-- Where a path text of the options leads. -/
def resolveOption (environment : Environment) (text : Bytes) : Except RunError Path :=
  match environment.resolve text with
  | .ok path => .ok path
  | .error cause => .error (.workingDirectory cause)

/-- Loads the configuration and discovers the files; fails when there are none. -/
def prepare (environment : Environment) (options : RunOptions) :
    Except RunError (Config × List Path) := do
  let configPath ← resolveOption environment options.config
  let root ← resolveOption environment options.source
  let config ← (Config.load environment.tree configPath).mapError .load
  let discovered ← (discover environment.tree root options.extensions).mapError .discover
  if discovered.isEmpty then throw (.nothingToAnalyze root .noFiles)
  pure (config, discovered)

/-- Classifies the discovered files and reconciles them with the declared ones. -/
def classifyProject (frontEnd : FrontEnd) (config : Config) (discovered : List Path)
    (vendor : VendorFilter) : Asked (Except RunError Classification) :=
  let asked := classify frontEnd discovered config.compilerOptions vendor
  { requests := asked.requests
    result := do
      let verdicts ← asked.result.mapError .compiler
      let partitions ← (reconcile discovered config.declared verdicts).mapError
        (.nothingToAnalyze config.directory)
      pure ⟨verdicts, partitions⟩ }

def reporterFor (options : RunOptions) (config : Config) : Reporter :=
  ⟨options.report, config.directory, config.fileName⟩

/-- Adds the files to include to the configuration, and reports how many there were. -/
def promote (tree : FileTree) (reporter : Reporter) (config : Config) (output : Output)
    (toInclude : List Path) : FileTree × Output × Except RunError Unit :=
  match Config.update tree config.path config.document toInclude with
  | (tree, .error error) => (tree, output, .error (.update error))
  | (tree, .ok added) =>
    match output.write? (reporter.render (reporter.updated added)) with
    | none => (tree, output, .error .outputFull)
    | some output => (tree, output, .ok ())

/-- A run whose configuration is loaded and whose files are discovered. -/
def runPrepared (tree : FileTree) (options : RunOptions) (frontEnd : FrontEnd) (config : Config)
    (discovered : List Path) (output : Output) : Run :=
  let reporter := reporterFor options config
  match output.write? (reporter.render (reporter.analyzing discovered.length)) with
  | none => ⟨tree, output, [], .error .outputFull⟩
  | some output =>
    let asked := classifyProject frontEnd config discovered options.vendor
    match asked.result with
    | .error error => ⟨tree, output, asked.requests, .error error⟩
    | .ok ⟨verdicts, partitions⟩ =>
      match output.write? (reporter.render (reporter.report partitions verdicts)) with
      | none => ⟨tree, output, asked.requests, .error .outputFull⟩
      | some output =>
        if options.update && !partitions.toInclude.isEmpty then
          match promote tree reporter config output partitions.toInclude with
          | (tree, output, .error error) => ⟨tree, output, asked.requests, .error error⟩
          | (tree, output, .ok ()) =>
            ⟨tree, output, asked.requests, .ok (RunStatus.of partitions)⟩
        else ⟨tree, output, asked.requests, .ok (RunStatus.of partitions)⟩

def run (environment : Environment) (options : RunOptions) (frontEnd : FrontEnd)
    (output : Output) : Run :=
  match prepare environment options with
  | .error error => ⟨environment.tree, output, [], .error error⟩
  | .ok (config, discovered) =>
    runPrepared environment.tree options frontEnd config discovered output

end StrictFiles
