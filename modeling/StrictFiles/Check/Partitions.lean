import StrictFiles.Check.Verdicts

/-!
Discovered files against declared ones. Every checked file is in one of four lists, by whether it
has errors and whether it is declared; each list keeps the order of discovery.
-/

namespace StrictFiles

structure Partitions where
  /-- Without errors and not declared: can be promoted. -/
  toInclude : List Path
  /-- Declared, with errors: a regression. -/
  broken : List Path
  /-- With errors and not declared: work that is left. -/
  remaining : List Path
  /-- Without errors and declared. -/
  alreadyOk : List Path
  deriving DecidableEq

namespace Partitions

def total (partitions : Partitions) : Nat :=
  partitions.toInclude.length + partitions.broken.length + partitions.remaining.length +
    partitions.alreadyOk.length

def hasBroken (partitions : Partitions) : Bool :=
  !partitions.broken.isEmpty

end Partitions

/-- How a run that came to its end went. -/
inductive RunStatus
  | clean
  /-- A declared file has errors. -/
  | broken
  deriving DecidableEq

namespace RunStatus

def of (partitions : Partitions) : RunStatus :=
  if partitions.hasBroken then .broken else .clean

def exitCode : RunStatus → Nat
  | .clean => 0
  | .broken => 1

end RunStatus

/-- Nothing was discovered. -/
inductive NothingToAnalyze
  | noFiles
  deriving DecidableEq

def NothingToAnalyze.message (_ : NothingToAnalyze) : String :=
  "there are no files to analyze"

/-- Splits the discovered files that were checked. -/
def reconcile (discovered declared : List Path) (verdicts : Verdicts) :
    Except NothingToAnalyze Partitions :=
  if discovered.isEmpty then .error .noFiles
  else
    let sorted := distinct (discovered.filter verdicts.isChecked)
    let part (failing known : Bool) := sorted.filter fun file =>
      verdicts.hasErrors file == failing && decide (file ∈ declared) == known
    .ok
      { toInclude := part false false
        broken := part true true
        remaining := part true false
        alreadyOk := part false true }

end StrictFiles
