import StrictFiles.Check.FrontEnd
import StrictFiles.Vendor

/-!
The verdict on each file of one compilation: which files were checked, and the errors in each. An
error counts when its file is a candidate; the compiler also reports on files that it found by
itself.
-/

namespace StrictFiles

/-- Files with their errors, in the order of their first errors. -/
abbrev ErrorTable := List (Path × List Diagnostic)

namespace ErrorTable

/-- Adds an error behind those of its file. -/
def add (table : ErrorTable) (diagnostic : Diagnostic) : ErrorTable :=
  match table with
  | [] => [(diagnostic.file, [diagnostic])]
  | (file, errors) :: rest =>
    if file = diagnostic.file then (file, errors ++ [diagnostic]) :: rest
    else (file, errors) :: add rest diagnostic

def ofList (diagnostics : List Diagnostic) : ErrorTable :=
  diagnostics.foldl add []

end ErrorTable

structure Verdicts where
  checked : List Path
  errors : ErrorTable

namespace Verdicts

def isChecked (verdicts : Verdicts) (file : Path) : Bool :=
  file ∈ verdicts.checked

/-- The errors of a file, if it has any. -/
def diagnostics? (verdicts : Verdicts) (file : Path) : Option (List Diagnostic) :=
  verdicts.errors.lookup file

def hasErrors (verdicts : Verdicts) (file : Path) : Bool :=
  (verdicts.diagnostics? file).isSome

/-- The files with errors. -/
def failing (verdicts : Verdicts) : List Path :=
  verdicts.errors.map Prod.fst

/-- The checked files without errors. -/
def errorFree (verdicts : Verdicts) : List Path :=
  verdicts.checked.filter fun file => !verdicts.hasErrors file

end Verdicts

/-- The candidates to check: each once, none of them vendored. -/
def filesToCheck (vendor : VendorFilter) (candidates : List Path) : List Path :=
  (distinct candidates).filter fun file => !vendor.covers file

/-- The diagnostics that are errors of candidates. -/
def attributed (candidates : List Path) (diagnostics : List Diagnostic) : List Diagnostic :=
  diagnostics.filter fun diagnostic => diagnostic.isError && diagnostic.file ∈ candidates

/-- A result, and what the front end was asked to build on the way. -/
structure Asked (α : Type) where
  requests : List Request
  result : α

/-- Checks the candidates that are not vendored, and sorts the errors by file. -/
def classify (frontEnd : FrontEnd) (candidates : List Path) (options : Json)
    (vendor : VendorFilter) : Asked (Except CompilerError Verdicts) :=
  let checked := filesToCheck vendor candidates
  { requests := [⟨checked, options⟩]
    result := do
      let unit ← frontEnd.build checked options
      let diagnostics ← unit.diagnostics
      pure ⟨checked, .ofList (attributed candidates diagnostics)⟩ }

end StrictFiles
