import StrictFiles.Check.Run
import StrictFiles.Compiler.Tsc
import StrictFiles.CommandLine.Help

/-!
What a command line does in an environment: what it prints, the code it ends with, and the tree it
leaves. A fatal error ends with a code of its own, so that it is not taken for files that are broken.
-/

namespace StrictFiles

structure Outcome where
  stdout : String
  stderr : String
  exitCode : Nat
  /-- How the compiler was run, when it was. -/
  invocation : Option Invocation
  tree : FileTree

namespace CommandLine

def fatalExitCode : Nat := 2

/-- A run that is ready to start. -/
structure Preparation where
  options : RunOptions
  config : Config
  discovered : List Path
  tsc : Tsc

/-- The texts that are given, or else the one that stands for them. -/
def orDefault (texts : List String) (fallback : String) : List String :=
  if texts.isEmpty then [fallback] else texts

/-- The path text of the configuration: the one given, or the nearest one above the working
directory. -/
def chooseProject (environment : Environment) (arguments : Arguments) : Except RunError Bytes :=
  match arguments.project with
  | some text => .ok text
  | none => do
    let directory ← resolveOption environment [46]
    let path ← findConfig environment.tree directory
    pure path.toBytes

/-- The compiler: the one given, or the one of the project. -/
def chooseTsc (environment : Environment) (arguments : Arguments) (config : Config) :
    Except RunError Tsc := do
  let tsc ← match arguments.tsc with
    | some executable =>
      (Tsc.ofCommandLine environment executable config.directory).mapError .workingDirectory
    | none => (Tsc.locate environment config.directory).mapError .compiler
  pure { tsc with inherited := config.inherited? }

def prepareRun (environment : Environment) (arguments : Arguments) :
    Except RunError Preparation := do
  let project ← chooseProject environment arguments
  let options : RunOptions :=
    { config := project
      source := arguments.source
      update := arguments.update
      vendor := .ofStrings (orDefault arguments.vendorDirs "node_modules")
      extensions := orDefault arguments.extensions "ts"
      report := ⟨arguments.verbose, arguments.remaining, !arguments.noColor⟩ }
  let (config, discovered) ← prepare environment options
  let tsc ← chooseTsc environment arguments config
  pure ⟨options, config, discovered, tsc⟩

/-- The text of a fatal error: its code, and below it the message with all that led to it. -/
def fatalText (color : Bool) (error : RunError) : String :=
  Span.render color [.alarming error.code, .plain "\n", .alarming error.chain, .plain "\n"]

/-- A warning as it is logged; what follows a line end in it is indented. -/
def warningText (warning : String) : String :=
  let shown := warning.toList.flatMap fun c => if c = '\n' then "\n    ".toList else [c]
  "[WARN  tsconfig_files_check::tsc] " ++ String.ofList shown ++ "\n"

/-- What a run prints and leaves. What the compiler logged comes before a fatal error. -/
def outcomeOf (color : Bool) (compilations : List Compilation) (run : Run) : Outcome :=
  let logged := String.join ((compilations.flatMap Compilation.warnings).map warningText)
  let invocation := compilations.findSome? Compilation.invocation
  match run.result with
  | .ok status => ⟨run.output.written, logged, status.exitCode, invocation, run.tree⟩
  | .error error =>
    ⟨run.output.written, logged ++ fatalText color error, fatalExitCode, invocation, run.tree⟩

/-- Carries out what a command line asks for. -/
def check (environment : Environment) (arguments : Arguments) : Outcome :=
  let color := !arguments.noColor
  match prepareRun environment arguments with
  | .error error => ⟨"", fatalText color error, fatalExitCode, none, environment.tree⟩
  | .ok ready =>
    let run := runPrepared environment.tree ready.options (ready.tsc.frontEnd environment)
      ready.config ready.discovered .unlimited
    let compilations := run.requests.map fun request =>
      ready.tsc.compile environment request.files request.options
    outcomeOf color compilations run

/-- The text on a usage error. -/
def usageText (stop : UsageStop) : String :=
  let missing := if stop = .missingSource then "\n  " ++ Setting.source.shown else ""
  stop.headline ++ missing ++ "\n\n" ++ usage ++ "\n\nFor more information, try '--help'.\n"

/-- Runs the program with the arguments behind its name. -/
def run (environment : Environment) (arguments : List Bytes) : Outcome :=
  match parse arguments with
  | .ok arguments => check environment arguments
  | .error (.help long) =>
    ⟨help (if long then .long else .short), "", 0, none, environment.tree⟩
  | .error .version => ⟨version ++ "\n", "", 0, none, environment.tree⟩
  | .error stop => ⟨"", usageText stop, fatalExitCode, none, environment.tree⟩

end CommandLine

end StrictFiles
