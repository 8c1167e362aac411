import StrictFiles.CommandLine.Outcome
import StrictFiles.CommandLine.Surroundings
import StrictFiles.Document.Reader

/-!
The command line. Standard input describes the surroundings of the run, as a document; the report
goes to standard output, warnings and errors to standard error, and files that have changed are
written.
-/

namespace StrictFiles

/-- The surroundings that standard input describes. A command line that asks for no run needs none. -/
def readEnvironment (arguments : List Bytes) : IO Environment := do
  match CommandLine.parse arguments with
  | .error _ => pure ⟨.empty, none, []⟩
  | .ok _ =>
    let text ← (← IO.getStdin).readToEnd
    match Json.read? text.toList with
    | none => throw (IO.userError "the surroundings of the run are no document")
    | some document =>
      match Environment.ofDocument document with
      | .ok environment => pure environment
      | .error cause => throw (IO.userError cause.message)

end StrictFiles

open StrictFiles in
def main (arguments : List String) : IO UInt32 := do
  let arguments := arguments.map Utf8.ofString
  let environment ← readEnvironment arguments
  let outcome := CommandLine.run environment arguments
  IO.print outcome.stdout
  IO.eprint outcome.stderr
  for (path, bytes) in environment.tree.changedSince outcome.tree do
    IO.FS.writeBinFile path.display ⟨bytes.toArray⟩
  return UInt32.ofNat outcome.exitCode
