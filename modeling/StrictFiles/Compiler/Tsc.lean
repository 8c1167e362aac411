import StrictFiles.Check.FrontEnd
import StrictFiles.Compiler.Offset
import StrictFiles.Compiler.Output
import StrictFiles.Document.Printer
import StrictFiles.Environment
import StrictFiles.Tree.Edit

/-!
The TypeScript compiler as a front end. It takes no file list, so each unit writes a temporary
project beside the configuration, runs the compiler on it, and removes it again. Options with
relative paths mean there what they mean in the configuration itself.
-/

namespace StrictFiles

structure Tsc where
  executable : Bytes
  /-- Where the compiler runs and temporary projects are written. -/
  directory : Path
  /-- The base configurations of the project, as its document names them. -/
  inherited : Option Json

/-- How the compiler was run. -/
structure Invocation where
  /-- The directory, links resolved. -/
  directory : Location
  program : Bytes
  arguments : List Bytes
  project : List Char

/-- What one compilation leaves: the tree, how the compiler was run, what was logged, and the
diagnostics. -/
structure Compilation where
  tree : FileTree
  invocation : Option Invocation
  warnings : List String
  result : Except CompilerError (List Diagnostic)

/-- The document of a temporary project, if all files have paths that are texts. Its empty `include`
keeps a base configuration from adding files. -/
def temporaryProject? (inherited : Option Json) (options : Json) (files : List Path) :
    Option Json := do
  let paths ← files.mapM Path.text?
  some (.object
    ((match inherited with
      | some value => [(Config.extendsKey, value)]
      | none => []) ++
    [(Config.compilerOptionsKey, options), ("include", .array []),
      (Config.filesKey, .array (paths.map .string))]))

/-- A temporary project in the tree. -/
structure TscUnit where
  tsc : Tsc
  place : Location
  path : Path
  text : List Char

/-- The texts of files that were read. -/
abbrev SourceCache := List (Path × List Char)

/-- The offset of a reported diagnostic in its file, which is read only if it is not known yet; zero
when it cannot be read. -/
def SourceCache.offset (cache : SourceCache) (tree : FileTree) (file : Path) (line column : Nat) :
    SourceCache × List String × Nat :=
  match cache.lookup file with
  | some text => (cache, [], Offset.of text line column)
  | none =>
    match tree.readText file with
    | .ok text => ((file, text) :: cache, [], Offset.of text line column)
    | .error cause =>
      let file := file.display
      let cause := cause.message
      (cache, [s!"unable to read {file} for diagnostic offsets: {cause}"], 0)

namespace Tsc

/-- The compiler given as `executable`. A bare name is left to the search path; anything with more
parts is resolved against the working directory. -/
def ofCommandLine (environment : Environment) (executable : Bytes) (directory : Path) :
    Except SystemError Tsc := do
  let leadingDot := (splitSlashes executable).head? = some [46]
  let parts := (segments executable).length + (if isRooted executable then 1 else 0) +
    (if leadingDot then 1 else 0)
  if 1 < parts then
    let path ← environment.resolve executable
    pure ⟨path.toBytes, directory, none⟩
  else pure ⟨executable, directory, none⟩

/-- The names on the way to a compiler that a project installed for itself. -/
def installedNames : List Name :=
  ["node_modules", ".bin", "tsc"].filterMap fun name => Name.ofBytes? (Utf8.ofString name)

/-- The compiler of a project: the nearest one installed at or above its directory, else the one on
the search path. -/
def locate (environment : Environment) (directory : Path) : Except CompilerError Tsc :=
  match environment.tree.findUpward? directory installedNames with
  | some path => .ok ⟨path.toBytes, directory, none⟩
  | none =>
    match environment.findProgram? (Utf8.ofString "tsc") with
    | some text => .ok ⟨text, directory, none⟩
    | none => .error (.notFound directory)

def temporaryStart : String := ".tscfc-"

def temporaryEnd : String := ".json"

/-- Writes a temporary project that lists exactly `files`. -/
def build (tsc : Tsc) (tree : FileTree) (files : List Path) (options : Json) :
    Except CompilerError (FileTree × TscUnit) :=
  match temporaryProject? tsc.inherited options files with
  | none => .error .pathNotText
  | some project =>
    let text := project.pretty 0
    let created := do
      let directory ← tree.locate tsc.directory
      tree.createTemporary directory temporaryStart temporaryEnd (Utf8.encode text)
    match created with
    | .error cause =>
      let name := Name.ofBytes? (Utf8.ofString temporaryStart ++ 42 :: Utf8.ofString temporaryEnd)
      .error (.projectNotWritten ((name.map tsc.directory.child).getD tsc.directory).toBytes cause)
    | .ok (written, place) =>
      let path := (place.getLast?.map tsc.directory.child).getD tsc.directory
      .ok (written, ⟨tsc, place, path, text⟩)

/-- The arguments for a project at a path. -/
def arguments (project : Path) : List Bytes :=
  [Utf8.ofString "--project", project.toBytes] ++
    ["--noEmit", "--pretty", "false"].map Utf8.ofString

/-- The command as messages show it. -/
def commandText (tsc : Tsc) (project : Path) : String :=
  let words := (tsc.executable :: arguments project).map Quoted.word
  String.ofList
    ("cd ".toList ++ Quoted.word tsc.directory.toBytes ++ " &&".toList ++
      words.flatMap fun word => ' ' :: word)

/-- The compiler ends so when it did its work, whether or not it found errors. -/
def isSuccess : ExitStatus → Bool
  | .exited code => code = 0 || code = 1 || code = 2
  | .signalled _ => false

/-- Reported diagnostics with the files they mean, and what was logged on the way. -/
def resolveAll (tree : FileTree) (directory : Path) (cache : SourceCache) :
    List CompilerOutput.Reported → List String × List Diagnostic
  | [] => ([], [])
  | reported :: rest =>
    let file := Path.resolve (Utf8.encode reported.file) directory
    let (cache, logged, offset) := cache.offset tree file reported.line reported.column
    let (later, diagnostics) := resolveAll tree directory cache rest
    (logged ++ later,
      { file
        code := reported.code
        message := String.ofList reported.message
        offset
        line := reported.line
        column := reported.column } :: diagnostics)

/-- The log entry for a line without a location. -/
def ignoredWarning (line : List Char) : String :=
  let line := String.ofList line
  s!"ignoring tsc output without a file location: {line}"

/-- Reads what a run of the compiler left, and what was logged on the way. -/
def readExecution (tree : FileTree) (unit : TscUnit) (execution : Execution) :
    List String × Except CompilerError (List Diagnostic) :=
  if !isSuccess execution.status then
    ([], .error (.failed (unit.tsc.commandText unit.path) execution.status execution.stderr))
  else match Utf8.decode execution.stdout with
    | .error fault => ([], .error (.outputNotText fault))
    | .ok text =>
      let reading := CompilerOutput.read text
      let (logged, diagnostics) := resolveAll tree unit.tsc.directory [] reading.reported
      (reading.ignored.map ignoredWarning ++ logged, .ok diagnostics)

/-- Runs the compiler on a unit that is in the tree. -/
def diagnostics (environment : Environment) (unit : TscUnit) :
    Option Invocation × List String × Except CompilerError (List Diagnostic) :=
  let started := do
    let directory ← environment.tree.locate unit.tsc.directory
    let (program, execution) ← environment.run directory unit.tsc.executable
    pure (directory, program, execution)
  match started with
  | .error cause => (none, [], .error (.notStarted cause))
  | .ok (directory, program, execution) =>
    (some ⟨directory, program, arguments unit.path, unit.text⟩,
      readExecution environment.tree unit execution)

/-- Builds a unit, asks for its diagnostics, and removes it. -/
def compile (tsc : Tsc) (environment : Environment) (files : List Path) (options : Json) :
    Compilation :=
  match tsc.build environment.tree files options with
  | .error cause => ⟨environment.tree, none, [], .error cause⟩
  | .ok (tree, unit) =>
    let (invocation, warnings, result) := diagnostics { environment with tree } unit
    ⟨tree.erase unit.place, invocation, warnings, result⟩

/-- The compiler as a front end in an environment. -/
def frontEnd (tsc : Tsc) (environment : Environment) : FrontEnd where
  build files options :=
    match tsc.build environment.tree files options with
    | .error cause => .error cause
    | .ok (tree, unit) => .ok ⟨(diagnostics { environment with tree } unit).2.2⟩

end Tsc

end StrictFiles
