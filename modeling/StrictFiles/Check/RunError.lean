import StrictFiles.Check.Partitions
import StrictFiles.Config.Update
import StrictFiles.Discovery.Files

/-!
Everything that stops a run: one cause each, with a code that stays the same, a message, and the
messages of what led to it.
-/

namespace StrictFiles

inductive RunError
  /-- No configuration at or above a directory. -/
  | missingProject (directory : Path)
  | workingDirectory (cause : SystemError)
  | load (error : LoadError)
  | discover (error : DiscoverError)
  | nothingToAnalyze (root : Path) (reason : NothingToAnalyze)
  | compiler (error : CompilerError)
  | update (error : UpdateError)
  /-- The output has no room for the report. -/
  | outputFull
  deriving DecidableEq

namespace RunError

def code : RunError → String
  | .missingProject _ => "MISSING_PROJECT"
  | .workingDirectory _ => "WORKING_DIRECTORY_ERROR"
  | .load error =>
    match error.failure with
    | .notFound => "CONFIG_NOT_FOUND"
    | .notOpened _ | .notRead _ => "CONFIG_UNREADABLE"
    | .notParsed | .notAnObject | .invalidFiles => "CONFIG_PARSE_ERROR"
  | .discover error =>
    match error.failure with
    | .missingRoot => "MISSING_SOURCE_PATH"
    | .pattern .. => "DISCOVERY_ERROR"
  | .nothingToAnalyze .. => "NO_FILES_TO_ANALYZE"
  | .compiler _ => "COMPILER_ERROR"
  | .update error =>
    match error.failure with
    | .notFound => "CONFIG_NOT_FOUND"
    | .notAnObject | .invalidFiles | .notText _ | .notWritten _ => "CONFIG_WRITE_ERROR"
  | .outputFull => "REPORT_ERROR"

def message : RunError → String
  | .missingProject directory =>
    let directory := directory.quoted
    s!"no tsconfig.json found in {directory} or any parent, pass one with --project"
  | .workingDirectory _ => "unable to determine the working directory"
  | .load error => error.message
  | .discover error => error.message
  | .nothingToAnalyze root _ =>
    let root := root.quoted
    s!"there are no typescript files in {root}"
  | .compiler _ => "error invoking the TypeScript compiler"
  | .update error => error.message
  | .outputFull => "unable to write report"

/-- What led to the error, nearest first. -/
def sources : RunError → List String
  | .missingProject _ => []
  | .workingDirectory cause => [cause.message]
  | .load error => error.sources
  | .discover error => error.sources
  | .nothingToAnalyze _ reason => [reason.message]
  | .compiler error => error.message :: error.sources
  | .update error => error.sources
  | .outputFull => ["output is full"]

/-- The message with all that led to it, on one line. -/
def chain (error : RunError) : String :=
  ": ".intercalate (error.message :: error.sources)

end RunError

end StrictFiles
