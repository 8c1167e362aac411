import StrictFiles.Text.Utf8

/-!
What running a program leaves behind: the two texts it prints, and how it ends.
-/

namespace StrictFiles

/-- How a program ends: with a code of its own, or by a signal. -/
inductive ExitStatus
  | exited (code : UInt8)
  | signalled (signal : Nat)
  deriving DecidableEq

namespace ExitStatus

/-- The names of the signals, from number 1. -/
def signalNames : List String :=
  ["SIGHUP", "SIGINT", "SIGQUIT", "SIGILL", "SIGTRAP", "SIGABRT", "SIGBUS", "SIGFPE", "SIGKILL",
    "SIGUSR1", "SIGSEGV", "SIGUSR2", "SIGPIPE", "SIGALRM", "SIGTERM", "SIGSTKFLT", "SIGCHLD",
    "SIGCONT", "SIGSTOP", "SIGTSTP", "SIGTTIN", "SIGTTOU", "SIGURG", "SIGXCPU", "SIGXFSZ",
    "SIGVTALRM", "SIGPROF", "SIGWINCH", "SIGIO", "SIGPWR", "SIGSYS"]

def message : ExitStatus → String
  | .exited code => s!"exit status: {code.toNat}"
  | .signalled signal =>
    match (("" :: signalNames)[signal]?).filter (· ≠ "") with
    | some name => s!"signal: {signal} ({name})"
    | none => s!"signal: {signal}"

end ExitStatus

structure Execution where
  stdout : Bytes
  stderr : Bytes
  status : ExitStatus
  deriving DecidableEq

end StrictFiles
