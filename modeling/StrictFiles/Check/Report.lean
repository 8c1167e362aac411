import StrictFiles.Check.Partitions
import StrictFiles.Path.Relative

/-!
The report of a run. It is a list of spans, some of them marked; color only changes how marked spans
are shown. Paths are shown relative to the directory of the configuration.
-/

namespace StrictFiles

/-- A piece of the report. -/
inductive Span
  | plain (text : String)
  | highlighted (text : String)
  | alarming (text : String)
  deriving DecidableEq

namespace Span

def highlightStart : String := "\x1b[93m"

def alarmStart : String := "\x1b[31m"

def markEnd : String := "\x1b[39m"

/-- The text without any mark. -/
def text : Span → String
  | .plain text | .highlighted text | .alarming text => text

/-- The text between the marks of a terminal. -/
def colored : Span → String
  | .plain text => text
  | .highlighted text => highlightStart ++ text ++ markEnd
  | .alarming text => alarmStart ++ text ++ markEnd

def render (color : Bool) (spans : List Span) : String :=
  String.join (spans.map (if color then colored else text))

end Span

structure ReportOptions where
  /-- List all checked files, with and without errors. -/
  verbose : Bool
  /-- List the files that are left to be fixed. -/
  showRemaining : Bool
  color : Bool
  deriving DecidableEq

structure Reporter where
  options : ReportOptions
  directory : Path
  configName : String

namespace Reporter

/-- A file as the report shows it. -/
def shown (reporter : Reporter) (file : Path) : String :=
  (file.relativeTo reporter.directory).display

/-- Files on a line each. -/
def fileLines (reporter : Reporter) (indent : String) (files : List Path) : List Span :=
  files.map fun file => .plain (indent ++ reporter.shown file ++ "\n")

def analyzing (_ : Reporter) (count : Nat) : List Span :=
  [.plain s!"Analyzing {count} typescript files ...\n"]

/-- All checked files, those without errors first. -/
def verboseSection (reporter : Reporter) (verdicts : Verdicts) : List Span :=
  let ok := verdicts.errorFree.length
  let failing := verdicts.failing.length
  .plain s!"--- Files Ok: {ok} ---\n" :: reporter.fileLines "" verdicts.errorFree ++
    .plain s!"--- Files with errors: {failing} ---\n" :: reporter.fileLines "" verdicts.failing

def includeSection (reporter : Reporter) (toInclude : List Path) : List Span :=
  let count := toInclude.length
  let name := reporter.configName
  .plain s!"\nInclude {count} file(s) to '{name}'\n" ::
    toInclude.flatMap fun file => [.highlighted (reporter.shown file), .plain "\n"]

def remainingSection (reporter : Reporter) (partitions : Partitions) : List Span :=
  let count := partitions.remaining.length
  let total := partitions.total
  .plain s!"Remaining {count}/{total} files to be fixed\n" ::
    reporter.fileLines "\t" partitions.remaining

def diagnosticLine (diagnostic : Diagnostic) : List Span :=
  let code := diagnostic.code
  [.plain s!"\tTS{code}: ", .alarming diagnostic.message, .plain "\n"]

/-- A declared file that fails, with its errors. -/
def brokenFile (reporter : Reporter) (verdicts : Verdicts) (file : Path) : List Span :=
  let errors := (verdicts.diagnostics? file).getD []
  let count := errors.length
  [.plain "File ", .alarming (reporter.shown file),
      .plain s!" was broken with {count} error(s)\n"] ++
    errors.flatMap diagnosticLine

def brokenSection (reporter : Reporter) (broken : List Path) (verdicts : Verdicts) : List Span :=
  let count := broken.length
  .plain s!"Found errors in {count} file(s)\n" :: broken.flatMap (reporter.brokenFile verdicts)

/-- The report on all files: the sections that have something to say, or that were asked for. -/
def report (reporter : Reporter) (partitions : Partitions) (verdicts : Verdicts) : List Span :=
  (if reporter.options.verbose then reporter.verboseSection verdicts else []) ++
  (if partitions.toInclude.isEmpty then [] else reporter.includeSection partitions.toInclude) ++
  (if reporter.options.showRemaining then reporter.remainingSection partitions else []) ++
  (if partitions.hasBroken then reporter.brokenSection partitions.broken verdicts else [])

def updated (reporter : Reporter) (added : Nat) : List Span :=
  let name := reporter.configName
  [.plain s!"Updated '{name}' with {added} file(s)\n"]

/-- The text of spans as this reporter shows it. -/
def render (reporter : Reporter) (spans : List Span) : String :=
  Span.render reporter.options.color spans

end Reporter

/-- Where a report goes: what has been written, and how many bytes there is room for. -/
structure Output where
  written : String
  room : Option Nat
  deriving DecidableEq

namespace Output

/-- An output that is never full. -/
def unlimited : Output := ⟨"", none⟩

/-- One with room for so many bytes. -/
def limited (bytes : Nat) : Output := ⟨"", some bytes⟩

/-- Writes a text, if there is room for all of it. -/
def write? (output : Output) (text : String) : Option Output :=
  let written := output.written ++ text
  if output.room.all fun room => written.utf8ByteSize ≤ room then some { output with written }
  else none

end Output

end StrictFiles
