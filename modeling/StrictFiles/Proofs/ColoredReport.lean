import StrictFiles.Proofs.AnnouncedEntries
import StrictFiles.Proofs.ExactVerdicts
import StrictFiles.Proofs.ShownPaths

/-!
Color only adds marks. Where nothing that a report shows holds the character that starts a mark, the
colored text without its marks is the text without color, and each mark that starts is ended before
another one starts.
-/

namespace StrictFiles

section Marks

/-- What is left of a text without its marks. -/
def withoutMarks : List Char → List Char
  | '\x1b' :: '[' :: '9' :: '3' :: 'm' :: rest => withoutMarks rest
  | '\x1b' :: '[' :: '3' :: '1' :: 'm' :: rest => withoutMarks rest
  | '\x1b' :: '[' :: '3' :: '9' :: 'm' :: rest => withoutMarks rest
  | c :: rest => c :: withoutMarks rest
  | [] => []

/-- The marks that start something. -/
def startMarks : List (List Char) :=
  [Span.highlightStart.toList, Span.alarmStart.toList]

/-- Behind each mark that starts something stands one that ends it, and none that starts something else
in between. -/
def IsClosed (text : List Char) : Prop :=
  ∀ start ∈ startMarks, ∀ before behind, text = before ++ (start ++ behind) →
    ∃ inside rest, behind = inside ++ (Span.markEnd.toList ++ rest) ∧
      ∀ other ∈ startMarks, ¬ other <:+: inside

variable {text rest : List Char}

theorem withoutMarks_append (plain : escape ∉ text) :
    withoutMarks (text ++ rest) = text ++ withoutMarks rest := by
  induction text with
  | nil => rfl
  | cons c text ih =>
    rw [List.mem_cons, not_or] at plain
    rw [List.cons_append, withoutMarks, ih plain.2, List.cons_append]
    all_goals
      intro _ other
      exact (plain.1 other.symm).elim

theorem withoutMarks_between {start inside : List Char} (member : start ∈ startMarks)
    (plain : escape ∉ inside) :
    withoutMarks (start ++ (inside ++ (Span.markEnd.toList ++ rest))) =
      inside ++ withoutMarks rest := by
  have skipped (behind : List Char) : withoutMarks (start ++ behind) = withoutMarks behind := by
    simp only [startMarks, List.mem_cons, List.not_mem_nil, or_false] at member
    rcases member with rfl | rfl <;> rfl
  have ended : withoutMarks (Span.markEnd.toList ++ rest) = withoutMarks rest := rfl
  rw [skipped, withoutMarks_append plain, ended]

/-- Marks are equally long, and hold one escape each, at the start. -/
theorem exists_escape {start : List Char} (member : start ∈ startMarks) :
    ∃ tail, start = escape :: tail ∧ escape ∉ tail ∧ start.length = Span.markEnd.toList.length ∧
      start ≠ Span.markEnd.toList := by
  have all : ∀ start ∈ startMarks, start = escape :: start.tail ∧ escape ∉ start.tail ∧
      start.length = Span.markEnd.toList.length ∧ start ≠ Span.markEnd.toList := by
    decide
  exact ⟨start.tail, all start member⟩

theorem isClosed_nil : IsClosed [] := by
  intro start member before behind cut
  obtain ⟨tail, rfl, _⟩ := exists_escape member
  simp at cut

theorem IsClosed.cons {c : Char} (closed : IsClosed rest)
    (noStart : ∀ start ∈ startMarks, ¬ start <+: c :: rest) : IsClosed (c :: rest) := by
  intro start member before behind cut
  cases before with
  | nil => exact (noStart start member ⟨behind, cut.symm⟩).elim
  | cons first before => exact closed start member before behind (List.cons.inj cut).2

theorem IsClosed.append (closed : IsClosed rest) (plain : escape ∉ text) :
    IsClosed (text ++ rest) := by
  induction text with
  | nil => exact closed
  | cons c text ih =>
    rw [List.mem_cons, not_or] at plain
    apply (ih plain.2).cons
    rintro start member ⟨behind, begins⟩
    obtain ⟨tail, rfl, _⟩ := exists_escape member
    exact plain.1 (List.cons.inj begins).1

theorem IsClosed.markEnd (closed : IsClosed rest) : IsClosed (Span.markEnd.toList ++ rest) := by
  have tail : IsClosed (['[', '3', '9', 'm'] ++ rest) := closed.append (by decide)
  apply tail.cons
  rintro start member ⟨behind, begins⟩
  obtain ⟨_, _, _, length, other⟩ := exists_escape member
  have same : start ++ behind = Span.markEnd.toList ++ rest := begins
  exact other (List.append_inj same length).1

/-- A mark with plain text behind it and an end is closed, whatever closed text comes next. -/
theorem IsClosed.between {start inside : List Char} (closed : IsClosed rest)
    (member : start ∈ startMarks) (plain : escape ∉ inside) :
    IsClosed (start ++ (inside ++ (Span.markEnd.toList ++ rest))) := by
  intro other among before behind cut
  obtain ⟨tail, spelt, plainTail, length, _⟩ := exists_escape member
  cases before with
  | nil =>
    obtain ⟨_, _, _, otherLength, _⟩ := exists_escape among
    rw [List.nil_append] at cut
    obtain ⟨_, same⟩ := List.append_inj cut (length.trans otherLength.symm)
    refine ⟨inside, rest, same.symm, ?_⟩
    intro third inThird found
    obtain ⟨_, rfl, _⟩ := exists_escape inThird
    exact plain (found.subset List.mem_cons_self)
  | cons first before =>
    have later : IsClosed (tail ++ (inside ++ (Span.markEnd.toList ++ rest))) :=
      (closed.markEnd.append plain).append plainTail
    rw [spelt] at cut
    exact later other among before behind (List.cons.inj cut).2

end Marks

namespace Span

/-- A span whose text holds no escape. -/
def IsPlain (span : Span) : Prop :=
  escape ∉ span.text.toList

/-- In color a span is its text, or stands between a mark and the end of marks. -/
theorem colored_cases (span : Span) :
    span.colored = span.text ∨ ∃ start ∈ startMarks,
      span.colored.toList = start ++ (span.text.toList ++ markEnd.toList) := by
  cases span with
  | plain text => exact .inl rfl
  | highlighted text =>
    right
    refine ⟨highlightStart.toList, List.mem_cons_self, ?_⟩
    rw [colored, String.toList_append, String.toList_append, List.append_assoc]
    rfl
  | alarming text =>
    right
    refine ⟨alarmStart.toList, List.mem_cons_of_mem _ List.mem_cons_self, ?_⟩
    rw [colored, String.toList_append, String.toList_append, List.append_assoc]
    rfl

/-- Plain spans in color are their texts with marks, and the marks are closed. -/
theorem render_of_plain {spans : List Span} (plain : ∀ span ∈ spans, span.IsPlain) :
    withoutMarks (render true spans).toList = (render false spans).toList ∧
      IsClosed (render true spans).toList := by
  induction spans with
  | nil => exact ⟨rfl, isClosed_nil⟩
  | cons span spans ih =>
    obtain ⟨here, later⟩ := List.forall_mem_cons.mp plain
    obtain ⟨same, closed⟩ := ih later
    rw [render_cons, render_cons, if_pos rfl, if_neg Bool.false_ne_true, String.toList_append,
      String.toList_append]
    rcases span.colored_cases with unmarked | ⟨start, member, marked⟩
    · rw [unmarked, withoutMarks_append here, same]
      exact ⟨rfl, closed.append here⟩
    · rw [marked, List.append_assoc, List.append_assoc, withoutMarks_between member here, same]
      exact ⟨rfl, closed.between member here⟩

end Span

namespace Reporter

section Sections

theorem escape_not_mem_append {first second : String} :
    escape ∉ (first ++ second).toList ↔ escape ∉ first.toList ∧ escape ∉ second.toList := by
  rw [String.toList_append, List.mem_append, not_or]

theorem escape_not_mem_number (n : Nat) : escape ∉ (toString n).toList := by
  intro member
  have digits : (toString n).toList = Nat.toDigits 10 n := String.toList_ofList
  rw [digits] at member
  have digit := Nat.isDigit_of_mem_toDigits (by omega) (by omega) member
  revert digit
  decide

/-- Nothing that is reported holds an escape: no path, no message, and not the name of the
configuration. -/
structure Unescaped (reporter : Reporter) (partitions : Partitions) (verdicts : Verdicts) : Prop where
  name : escape ∉ reporter.configName.toList
  sorted : ∀ part ∈ partitions.parts, ∀ file ∈ part, escapeByte ∉ file.toBytes
  checked : ∀ file ∈ verdicts.checked, escapeByte ∉ file.toBytes
  failing : ∀ entry ∈ verdicts.errors, escapeByte ∉ entry.1.toBytes ∧
    ∀ diagnostic ∈ entry.2, escape ∉ diagnostic.message.toList

variable (reporter : Reporter)

theorem isPlain_analyzing (count : Nat) : ∀ span ∈ reporter.analyzing count, span.IsPlain := by
  rw [analyzing, List.forall_mem_singleton]
  simp only [Span.IsPlain, Span.text, escape_not_mem_append]
  exact ⟨⟨by decide, escape_not_mem_number count⟩, by decide⟩

theorem isPlain_updated (name : escape ∉ reporter.configName.toList) (added : Nat) :
    ∀ span ∈ reporter.updated added, span.IsPlain := by
  rw [updated, List.forall_mem_singleton]
  simp only [Span.IsPlain, Span.text, escape_not_mem_append]
  exact ⟨⟨⟨⟨by decide, name⟩, by decide⟩, escape_not_mem_number added⟩, by decide⟩

theorem isPlain_fileLines {indent : String} (plain : escape ∉ indent.toList) {files : List Path}
    (unescaped : ∀ file ∈ files, escapeByte ∉ file.toBytes) :
    ∀ span ∈ reporter.fileLines indent files, span.IsPlain := by
  rw [fileLines, List.forall_mem_map]
  intro file member
  simp only [Span.IsPlain, Span.text, escape_not_mem_append]
  exact ⟨⟨plain, reporter.escape_not_mem_shown (unescaped file member)⟩, by decide⟩

theorem isPlain_verboseSection {verdicts : Verdicts}
    (checked : ∀ file ∈ verdicts.checked, escapeByte ∉ file.toBytes)
    (failing : ∀ file ∈ verdicts.failing, escapeByte ∉ file.toBytes) :
    ∀ span ∈ reporter.verboseSection verdicts, span.IsPlain := by
  have errorFree : ∀ file ∈ verdicts.errorFree, escapeByte ∉ file.toBytes :=
    fun file member => checked file (List.mem_of_mem_filter member)
  rw [verboseSection, List.cons_append, List.forall_mem_cons, List.forall_mem_append,
    List.forall_mem_cons]
  refine ⟨?_, reporter.isPlain_fileLines (by decide) errorFree, ?_,
    reporter.isPlain_fileLines (by decide) failing⟩
  all_goals
    simp only [Span.IsPlain, Span.text, escape_not_mem_append]
    exact ⟨⟨by decide, escape_not_mem_number _⟩, by decide⟩

theorem isPlain_includeSection (name : escape ∉ reporter.configName.toList) {files : List Path}
    (unescaped : ∀ file ∈ files, escapeByte ∉ file.toBytes) :
    ∀ span ∈ reporter.includeSection files, span.IsPlain := by
  rw [includeSection, List.forall_mem_cons, List.forall_mem_flatMap]
  constructor
  · simp only [Span.IsPlain, Span.text, escape_not_mem_append]
    exact ⟨⟨⟨⟨by decide, escape_not_mem_number _⟩, by decide⟩, name⟩, by decide⟩
  · intro file member
    rw [List.forall_mem_cons, List.forall_mem_singleton]
    exact ⟨reporter.escape_not_mem_shown (unescaped file member), by unfold Span.IsPlain; decide⟩

theorem isPlain_remainingSection {partitions : Partitions}
    (remaining : ∀ file ∈ partitions.remaining, escapeByte ∉ file.toBytes) :
    ∀ span ∈ reporter.remainingSection partitions, span.IsPlain := by
  rw [remainingSection, List.forall_mem_cons]
  refine ⟨?_, reporter.isPlain_fileLines (by decide) remaining⟩
  simp only [Span.IsPlain, Span.text, escape_not_mem_append]
  exact ⟨⟨⟨⟨by decide, escape_not_mem_number _⟩, by decide⟩, escape_not_mem_number _⟩, by decide⟩

theorem isPlain_diagnosticLine {diagnostic : Diagnostic}
    (message : escape ∉ diagnostic.message.toList) :
    ∀ span ∈ diagnosticLine diagnostic, span.IsPlain := by
  rw [diagnosticLine, List.forall_mem_cons, List.forall_mem_cons, List.forall_mem_singleton]
  refine ⟨?_, message, by unfold Span.IsPlain; decide⟩
  simp only [Span.IsPlain, Span.text, escape_not_mem_append]
  exact ⟨⟨by decide, escape_not_mem_number _⟩, by decide⟩

theorem isPlain_brokenFile {file : Path} (unescaped : escapeByte ∉ file.toBytes) {verdicts : Verdicts}
    (messages : ∀ errors, verdicts.diagnostics? file = some errors →
      ∀ diagnostic ∈ errors, escape ∉ diagnostic.message.toList) :
    ∀ span ∈ reporter.brokenFile verdicts file, span.IsPlain := by
  rw [brokenFile, List.forall_mem_append, List.forall_mem_cons, List.forall_mem_cons,
    List.forall_mem_singleton, List.forall_mem_flatMap]
  refine ⟨⟨by unfold Span.IsPlain; decide, reporter.escape_not_mem_shown unescaped, ?_⟩, ?_⟩
  · simp only [Span.IsPlain, Span.text, escape_not_mem_append]
    exact ⟨⟨by decide, escape_not_mem_number _⟩, by decide⟩
  · intro diagnostic member
    cases known : verdicts.diagnostics? file with
    | none =>
      rw [known] at member
      cases member
    | some errors =>
      rw [known] at member
      exact isPlain_diagnosticLine (messages errors known diagnostic member)

theorem isPlain_brokenSection {files : List Path} {verdicts : Verdicts}
    (unescaped : ∀ file ∈ files, escapeByte ∉ file.toBytes)
    (messages : ∀ file errors, verdicts.diagnostics? file = some errors →
      ∀ diagnostic ∈ errors, escape ∉ diagnostic.message.toList) :
    ∀ span ∈ reporter.brokenSection files verdicts, span.IsPlain := by
  rw [brokenSection, List.forall_mem_cons, List.forall_mem_flatMap]
  constructor
  · simp only [Span.IsPlain, Span.text, escape_not_mem_append]
    exact ⟨⟨by decide, escape_not_mem_number _⟩, by decide⟩
  · intro file member
    exact reporter.isPlain_brokenFile (unescaped file member) (messages file)

end Sections

variable {reporter : Reporter} {partitions : Partitions} {verdicts : Verdicts}

theorem isPlain_report (unescaped : reporter.Unescaped partitions verdicts) :
    ∀ span ∈ reporter.report partitions verdicts, span.IsPlain := by
  have part {files : List Path} (among : files ∈ partitions.parts) := unescaped.sorted files among
  have failing : ∀ file ∈ verdicts.failing, escapeByte ∉ file.toBytes := by
    rw [Verdicts.failing, List.forall_mem_map]
    exact fun entry member => (unescaped.failing entry member).1
  have messages (file : Path) (errors : List Diagnostic)
      (known : verdicts.diagnostics? file = some errors) :
      ∀ diagnostic ∈ errors, escape ∉ diagnostic.message.toList := by
    obtain ⟨before, after, split, _⟩ := List.lookup_eq_some_iff.mp known
    have entry : (file, errors) ∈ verdicts.errors := by
      rw [split]
      exact List.mem_append_right before List.mem_cons_self
    exact (unescaped.failing _ entry).2
  have either (condition : Prop) [Decidable condition] {first second : List Span}
      (plain : ∀ span ∈ first, span.IsPlain) (otherPlain : ∀ span ∈ second, span.IsPlain) :
      ∀ span ∈ (if condition then first else second), span.IsPlain := by
    split
    · exact plain
    · exact otherPlain
  have nothing : ∀ span ∈ ([] : List Span), span.IsPlain := List.forall_mem_nil _
  rw [report, List.forall_mem_append, List.forall_mem_append, List.forall_mem_append]
  refine ⟨⟨⟨either _ ?_ nothing, either _ nothing ?_⟩, either _ ?_ nothing⟩, either _ ?_ nothing⟩
  · exact reporter.isPlain_verboseSection unescaped.checked failing
  · exact reporter.isPlain_includeSection unescaped.name (part (by simp [Partitions.parts]))
  · exact reporter.isPlain_remainingSection (part (by simp [Partitions.parts]))
  · exact reporter.isPlain_brokenSection (part (by simp [Partitions.parts])) messages

/-- The reporter that does the same with color, or without. -/
def withColor (reporter : Reporter) (color : Bool) : Reporter :=
  { reporter with options := { reporter.options with color } }

end Reporter

/-- A text in color says what a text without says: it is that text when its marks are deleted, and none
of them is left open. -/
structure Recolors (colored uncolored : String) : Prop where
  same : withoutMarks colored.toList = uncolored.toList
  closed : IsClosed colored.toList

theorem Reporter.recolors_of_plain (reporter : Reporter) {spans : List Span}
    (plain : ∀ span ∈ spans, span.IsPlain) :
    Recolors ((reporter.withColor true).render spans) ((reporter.withColor false).render spans) := by
  obtain ⟨same, closed⟩ := Span.render_of_plain plain
  exact ⟨same, closed⟩

/-- Color changes nothing that is said, whatever is reported and whichever sections are asked for, as
long as no path, no message and not the name of the configuration holds an escape: each of the three
texts, and all of them in a row, are the uncolored ones when the marks are deleted, and no mark is open
where another one starts or the text ends. -/
theorem color_adds_closed_marks {reporter : Reporter} {partitions : Partitions} {verdicts : Verdicts}
    (unescaped : reporter.Unescaped partitions verdicts) (count added : Nat) :
    let on := reporter.withColor true
    let off := reporter.withColor false
    Recolors (on.render (on.analyzing count)) (off.render (off.analyzing count)) ∧
      Recolors (on.render (on.report partitions verdicts))
        (off.render (off.report partitions verdicts)) ∧
      Recolors (on.render (on.updated added)) (off.render (off.updated added)) ∧
      Recolors
        (on.render (on.analyzing count ++ on.report partitions verdicts ++ on.updated added))
        (off.render (off.analyzing count ++ off.report partitions verdicts ++ off.updated added)) := by
  intro on off
  have analyzing := reporter.isPlain_analyzing count
  have report := Reporter.isPlain_report unescaped
  have updated := reporter.isPlain_updated unescaped.name added
  refine ⟨reporter.recolors_of_plain analyzing, reporter.recolors_of_plain report,
    reporter.recolors_of_plain updated, reporter.recolors_of_plain ?_⟩
  rw [List.forall_mem_append, List.forall_mem_append]
  exact ⟨⟨analyzing, report⟩, updated⟩

set_option maxRecDepth 20000 in
/-- A report on a file that passes and on one that fails with a message of two lines. -/
theorem color_adds_closed_marks_twoLineMessage :
    let reporter : Reporter := ⟨⟨false, true, true⟩, .root, "c"⟩
    let partitions : Partitions := ⟨[MixedReports.passing], [MixedReports.failing], [], []⟩
    let verdicts : Verdicts := ⟨[MixedReports.passing, MixedReports.failing],
      [(MixedReports.failing, [⟨MixedReports.failing, 7, "two\nlines", 0, 1, 1⟩])]⟩
    reporter.Unescaped partitions verdicts ∧
      Recolors (reporter.render (reporter.report partitions verdicts))
        ((reporter.withColor false).render (reporter.report partitions verdicts)) ∧
      reporter.render (reporter.report partitions verdicts) =
        "\nInclude 1 file(s) to 'c'\n\x1b[93mp\x1b[39m\nRemaining 0/2 files to be fixed\n" ++
          "Found errors in 1 file(s)\nFile \x1b[31mq\x1b[39m was broken with 1 error(s)\n" ++
          "\tTS7: \x1b[31mtwo\nlines\x1b[39m\n" := by
  intro reporter partitions verdicts
  have unescaped : reporter.Unescaped partitions verdicts :=
    ⟨by decide, by decide, by decide, by decide⟩
  obtain ⟨_, recolors, _⟩ := color_adds_closed_marks unescaped 2 1
  refine ⟨unescaped, recolors, ?_⟩
  cbv

end StrictFiles
