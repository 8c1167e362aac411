import StrictFiles.Config.Load
import StrictFiles.Tree.Execution

/-!
What type-checks the files. A front end builds a unit over exactly the files it is given; the unit
answers diagnostics, in the order they were reported. Either may fail.
-/

namespace StrictFiles

/-- One issue reported against a file. -/
structure Diagnostic where
  file : Path
  /-- The number of the diagnostic; zero when it has none. -/
  code : Nat
  message : String
  /-- The byte of the file's text that is meant. -/
  offset : Nat
  line : Nat
  column : Nat
  deriving DecidableEq

/-- Diagnostics without a code inform; all others are errors. -/
def Diagnostic.isError (diagnostic : Diagnostic) : Bool :=
  diagnostic.code ≠ 0

inductive CompilerError
  | notFound (searchedFrom : Path)
  /-- The temporary project could not be written to this path text. -/
  | projectNotWritten (path : Bytes) (cause : SystemError)
  /-- A file to check has a path that is no text. -/
  | pathNotText
  | notStarted (cause : SystemError)
  | failed (command : String) (status : ExitStatus) (stderr : Bytes)
  /-- What the compiler printed is no text. -/
  | outputNotText (fault : Utf8.Fault)
  deriving DecidableEq

namespace CompilerError

def message : CompilerError → String
  | .notFound searchedFrom =>
    let directory := searchedFrom.quoted
    s!"unable to find tsc in node_modules above {directory} or on PATH"
  | .projectNotWritten .. => "unable to write temporary project for tsc"
  | .pathNotText => "unable to serialize temporary project for tsc"
  | .notStarted _ => "unable to spawn child process"
  | .failed command status stderr =>
    let status := status.message
    let command := String.ofList (Quoted.text command.toList)
    let printed := String.ofList (Utf8.decodeLossy stderr)
    s!"tsc failed with {status} for command {command}:\n{printed}"
  | .outputNotText _ => "command output included invalid UTF-8"

/-- What led to the error. -/
def sources : CompilerError → List String
  | .notFound _ | .failed .. => []
  | .projectNotWritten path cause =>
    let cause := cause.message
    let path := String.ofList (Quoted.path path)
    [s!"{cause} at path {path}"]
  | .pathNotText => ["path contains invalid UTF-8 characters"]
  | .notStarted cause => [cause.message]
  | .outputNotText fault => [fault.message]

end CompilerError

structure CompilationUnit where
  diagnostics : Except CompilerError (List Diagnostic)

structure FrontEnd where
  build : (files : List Path) → (options : Json) → Except CompilerError CompilationUnit

/-- What a front end was asked to build. -/
structure Request where
  files : List Path
  options : Json

end StrictFiles
