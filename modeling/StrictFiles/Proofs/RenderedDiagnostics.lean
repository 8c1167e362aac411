import Mathlib.Data.List.DropRight
import StrictFiles.Proofs.LocatedLines
import StrictFiles.Proofs.OutputLines

/-!
What was printed is read back. Diagnostics may be printed with any line ends, with blank lines between
their lines and with lines about no file between them: reading gives the diagnostics, in their order.
-/

namespace StrictFiles

namespace CompilerOutput

/-- A diagnostic and the lines its message is printed on. The file may hold locations of its own. -/
structure Rendered where
  file : List Char
  line : Nat
  column : Nat
  category : Category
  code : Nat
  first : List Char
  others : List (List Char)
  named : file ≠ [] ∧ isIndented file = false
  small : line < 0x100000000 ∧ column < 0x100000000 ∧ code < 0x100000000
  plain : ¬ HoldsLocation first
  closed : first.getLast? ≠ some '\r'
  indented : ∀ text ∈ others, isIndented text = true
  trimmed : ∀ text ∈ others, ∀ c ∈ text.getLast?, CharClass.blank.has c = false

namespace Rendered

def header (rendered : Rendered) : List Char :=
  rendered.file ++ ((Location.printed rendered.line rendered.column rendered.category
    rendered.code).text ++ rendered.first)

def lines (rendered : Rendered) : List (List Char) :=
  rendered.header :: rendered.others

/-- The diagnostic itself, the lines of its message put together. -/
def reported (rendered : Rendered) : Reported where
  file := rendered.file
  line := rendered.line
  column := rendered.column
  code := rendered.code
  message := rendered.first ++ rendered.others.flatMap ('\n' :: ·)

/-- No line of a diagnostic ends with a carriage return, not even one whose message is empty: then the
location stands at its end. -/
theorem no_returns (rendered : Rendered) :
    ∀ line ∈ rendered.lines, line.getLast? ≠ some '\r' := by
  rw [lines, List.forall_mem_cons]
  constructor
  · obtain ⟨front, spelt⟩ := (Location.printed rendered.line rendered.column rendered.category
      rendered.code).text_eq_append
    have ends : rendered.header.getLast? = some (rendered.first.getLast?.getD ' ') := by
      rw [header, spelt]
      simp [List.getLast?_append, List.getLast?_cons]
    have closed := rendered.closed
    rw [ends]
    cases last : rendered.first.getLast? with
    | none => decide
    | some c => rwa [last] at closed
  · intro text among ends
    have blank := rendered.trimmed text among _ ends
    cases blank

end Rendered

/-- Lines about no file: one at the margin that is not cut anywhere, and indented ones below it. -/
structure Aside where
  header : List Char
  followers : List (List Char)
  atMargin : header ≠ [] ∧ isIndented header = false
  plain : ¬ HoldsLocation header.tail
  indented : ∀ text ∈ followers, isIndented text = true

/-- Lines that are printed together. -/
inductive Block
  | diagnostic (rendered : Rendered)
  | aside (ignored : Aside)

namespace Block

def lines : Block → List (List Char)
  | diagnostic rendered => rendered.lines
  | aside ignored => ignored.header :: ignored.followers

def reported? : Block → Option Reported
  | diagnostic rendered => some rendered.reported
  | aside _ => none

end Block

theorem isIndented_append {line : List Char} (something : line ≠ []) (behind : List Char) :
    isIndented (line ++ behind) = isIndented line := by
  obtain ⟨c, rest, rfl⟩ := List.exists_cons_of_ne_nil something
  rfl

theorem isBlankLine_of_atMargin {line : List Char} (something : line ≠ [])
    (atMargin : isIndented line = false) : isBlankLine line = false := by
  obtain ⟨c, rest, rfl⟩ := List.exists_cons_of_ne_nil something
  have notBlank : CharClass.blank.has c = false := atMargin
  simp [isBlankLine, notBlank]

theorem isBlankLine_of_trimmed {line : List Char} (indented : isIndented line = true)
    (trimmed : ∀ c ∈ line.getLast?, CharClass.blank.has c = false) : isBlankLine line = false := by
  have something : line ≠ [] := by
    rintro rfl
    cases indented
  rw [isBlankLine, List.all_eq_false]
  refine ⟨line.getLast something, List.getLast_mem something, ?_⟩
  rw [trimmed _ (List.getLast_mem_getLast? something)]
  exact Bool.false_ne_true

namespace Reading

/-- Blank lines are passed over. -/
theorem foldl_readLine_filter (reading : Reading) (text : List (List Char)) :
    (text.filter fun line => !isBlankLine line).foldl readLine reading =
      text.foldl readLine reading := by
  rw [List.foldl_filter]
  congr 1
  funext reading line
  by_cases blank : isBlankLine line = true
  · simp [readLine, blank]
  · simp [blank]

section Diagnostics

theorem continueLast_append (line : List Char) (before : List Reported) (last : Reported) :
    continueLast line (before ++ [last]) =
      before ++ [{ last with message := last.message ++ '\n' :: line }] := by
  induction before with
  | nil => rfl
  | cons first before ih =>
    have more : before ++ [last] ≠ [] := by simp
    rw [List.cons_append, continueLast.eq_3 _ _ _ more, ih, List.cons_append]

theorem trimEnd_eq_self {line : List Char}
    (trimmed : ∀ c ∈ line.getLast?, CharClass.blank.has c = false) : trimEnd line = line := by
  refine List.rdropWhile_eq_self_iff.mpr ?_
  intro something blank
  have ends := trimmed _ (List.getLast_mem_getLast? something)
  rw [ends] at blank
  cases blank

/-- Indented lines behind a diagnostic continue its message. -/
theorem foldl_readLine_continued {others : List (List Char)}
    (indented : ∀ text ∈ others, isIndented text = true)
    (trimmed : ∀ text ∈ others, ∀ c ∈ text.getLast?, CharClass.blank.has c = false)
    (before : List Reported) (last : Reported) (ignored : List (List Char)) :
    others.foldl readLine ⟨before ++ [last], ignored, true⟩ =
      ⟨before ++ [{ last with message := last.message ++ others.flatMap ('\n' :: ·) }], ignored,
        true⟩ := by
  induction others generalizing last with
  | nil => simp
  | cons text others ih =>
    obtain ⟨indentedHere, indentedBelow⟩ := List.forall_mem_cons.mp indented
    obtain ⟨trimmedHere, trimmedBelow⟩ := List.forall_mem_cons.mp trimmed
    have notBlank := isBlankLine_of_trimmed indentedHere trimmedHere
    have step : readLine ⟨before ++ [last], ignored, true⟩ text =
        ⟨before ++ [{ last with message := last.message ++ '\n' :: text }], ignored, true⟩ := by
      simp only [readLine, notBlank, indentedHere, if_true, Bool.false_eq_true, if_false,
        trimEnd_eq_self trimmedHere, continueLast_append]
    rw [List.foldl_cons, step, ih indentedBelow trimmedBelow, List.flatMap_cons]
    simp only [List.append_assoc]

/-- A line that is cut starts a diagnostic. -/
theorem readLine_header (rendered : Rendered) (reading : Reading) :
    reading.readLine rendered.header =
      ⟨reading.reported ++ [⟨rendered.file, rendered.line, rendered.column, rendered.code,
        rendered.first⟩], reading.ignored, true⟩ := by
  obtain ⟨something, atMargin⟩ := rendered.named
  have headerAtMargin : isIndented rendered.header = false := by
    rw [Rendered.header, isIndented_append something, atMargin]
  have headerSomething : rendered.header ≠ [] := List.append_ne_nil_of_left_ne_nil something _
  have notBlank := isBlankLine_of_atMargin headerSomething headerAtMargin
  have found := reported?_printed something rendered.plain rendered.small rendered.category
  rw [← Rendered.header] at found
  simp only [readLine, notBlank, headerAtMargin, Bool.false_eq_true, if_false, found]

/-- The lines of a diagnostic, read as they stand, put it behind those read before. -/
theorem foldl_readLine_rendered (rendered : Rendered) (reading : Reading) :
    rendered.lines.foldl readLine reading =
      ⟨reading.reported ++ [rendered.reported], reading.ignored, true⟩ := by
  rw [Rendered.lines, List.foldl_cons, readLine_header,
    foldl_readLine_continued rendered.indented rendered.trimmed]
  rfl

end Diagnostics

section Asides

variable {read printed : List Char} (same : IsReadOf read printed)
include same

/-- What is no line of a diagnostic ends the one above it. -/
theorem readLine_plain (something : printed ≠ []) (atMargin : isIndented printed = false)
    (plain : ¬ HoldsLocation printed.tail) (reading : Reading) :
    reading.readLine read = ⟨reading.reported, reading.ignored ++ [read], false⟩ := by
  have notBlank := isBlankLine_of_atMargin something atMargin
  obtain ⟨c, rest, tail, rfl, rfl, restSame⟩ := same.exists_cons notBlank
  have readNotBlank : isBlankLine (c :: rest) = false := by
    rw [same.isBlankLine, notBlank]
  have readAtMargin : isIndented (c :: rest) = false := atMargin
  have restPlain : ¬ HoldsLocation rest := by
    rcases restSame with rfl | rfl
    · exact plain
    · exact fun holds => plain (holds.append _)
  have notCut : reported? (c :: rest) = none := by
    have notLocated : locatedLine? (c :: rest) = none := locatedLine?_eq_none.mpr restPlain
    rw [reported?, notLocated]
    rfl
  simp only [readLine, readNotBlank, readAtMargin, Bool.false_eq_true, if_false, notCut]

/-- Indented lines that continue nothing are passed over. -/
theorem readLine_follower (indented : isIndented printed = true) {reading : Reading}
    (nothing : reading.continues = false) : reading.readLine read = reading := by
  by_cases blank : isBlankLine printed = true
  · have readBlank : isBlankLine read = true := by rw [same.isBlankLine, blank]
    rw [readLine, if_pos readBlank]
  · rw [Bool.not_eq_true] at blank
    obtain ⟨c, rest, tail, rfl, rfl, _⟩ := same.exists_cons blank
    have readIndented : isIndented (c :: rest) = true := indented
    simp only [readLine, readIndented, nothing, if_true, Bool.false_eq_true, if_false, ite_self]

end Asides

theorem foldl_readLine_followers {read followers : List (List Char)}
    (same : List.Forall₂ IsReadOf read followers)
    (indented : ∀ text ∈ followers, isIndented text = true) {reading : Reading}
    (nothing : reading.continues = false) : read.foldl readLine reading = reading := by
  induction same with
  | nil => rfl
  | cons here _ ih =>
    obtain ⟨indentedHere, indentedBelow⟩ := List.forall_mem_cons.mp indented
    rw [List.foldl_cons, readLine_follower here indentedHere nothing, ih indentedBelow]

/-- Lines printed together add their diagnostic, if they hold one. -/
theorem reported_foldl_block {block : Block} {read : List (List Char)}
    (same : List.Forall₂ IsReadOf read block.lines) (reading : Reading) :
    (read.foldl readLine reading).reported = reading.reported ++ block.reported?.toList := by
  cases block with
  | diagnostic rendered =>
    have asPrinted : read = rendered.lines := eq_of_no_returns same rendered.no_returns
    rw [asPrinted, foldl_readLine_rendered]
    rfl
  | aside ignored =>
    obtain ⟨something, atMargin⟩ := ignored.atMargin
    obtain ⟨header, followers, headerSame, followersSame, rfl⟩ := List.forall₂_cons_right_iff.mp same
    rw [List.foldl_cons, readLine_plain headerSame something atMargin ignored.plain,
      foldl_readLine_followers followersSame ignored.indented rfl]
    simp [Block.reported?]

/-- Every block starts at the margin, so its own first line settles what its indented lines continue, and
the blocks are read from any reading as they are from the first one. -/
theorem reported_foldl_blocks {blocks : List Block} {read : List (List Char)}
    (same : List.Forall₂ IsReadOf read (blocks.flatMap Block.lines)) (reading : Reading) :
    (read.foldl readLine reading).reported =
      reading.reported ++ blocks.filterMap Block.reported? := by
  induction blocks generalizing read reading with
  | nil =>
    obtain rfl := List.forall₂_nil_right_iff.mp same
    simp
  | cons block blocks ih =>
    rw [List.flatMap_cons] at same
    have here := List.forall₂_take_append _ _ _ same
    have below := List.forall₂_drop_append _ _ _ same
    rw [← List.take_append_drop block.lines.length read, List.foldl_append, ih below,
      reported_foldl_block here, List.append_assoc]
    cases found : block.reported? <;> simp [found]

end Reading

/-- Reading gives back the diagnostics that were printed, in order. The lines are those of the blocks
one after another, with blank lines in between; they may be ended either way. -/
theorem read_rendered {blocks : List Block} {printed : List (List Char)} {text : List Char}
    (spread : printed.filter (fun line => !isBlankLine line) = blocks.flatMap Block.lines)
    (ended : Ended printed text) : (read text).reported = blocks.filterMap Block.reported? := by
  have same : List.Forall₂ IsReadOf ((lines text).filter fun line => !isBlankLine line)
      (blocks.flatMap Block.lines) := by
    rw [← spread]
    refine List.rel_filter ?_ ended.lines
    intro line printed same
    simp [same.isBlankLine]
  rw [read, ← Reading.foldl_readLine_filter, Reading.reported_foldl_blocks same]
  -- nothing was reported when the reading started
  rfl

/-- Two diagnostics under a mixture of line ends: one whose file reads like a location and whose message
is continued below a blank line, one without a message on the last line. In between stands a line about
no file, with what is indented below it. -/
theorem read_rendered_mixedEnds :
    (read ("a(1,2): error TS1: b(3,4): error TS2: No.\r\n \t\r\n\n  Why.\n".toList ++
        "error TS5: (1,2)\r\n\n  c(1,1): error TS6: d \r\ne(7,1): warning TS9: ".toList)).reported =
      [⟨"a(1,2): error TS1: b".toList, 3, 4, 2, "No.\n  Why.".toList⟩, ⟨['e'], 7, 1, 9, []⟩] := by
  obtain ⟨text, ended, spelt⟩ : ∃ text, Ended ["a(1,2): error TS1: b(3,4): error TS2: No.".toList,
      " \t".toList, [], "  Why.".toList, "error TS5: (1,2)".toList, [],
      "  c(1,1): error TS6: d ".toList, "e(7,1): warning TS9: ".toList] text ∧
      text = "a(1,2): error TS1: b(3,4): error TS2: No.\r\n \t\r\n\n  Why.\n".toList ++
        "error TS5: (1,2)\r\n\n  c(1,1): error TS6: d \r\ne(7,1): warning TS9: ".toList :=
    ⟨_, .returnFeed (by decide) <| .returnFeed (by decide) <| .feed (by decide) <|
      .feed (by decide) <| .returnFeed (by decide) <| .feed (by decide) <|
      .returnFeed (by decide) <| .last (by decide) (by decide), by decide⟩
  rw [← spelt]
  exact @read_rendered
    [.diagnostic ⟨"a(1,2): error TS1: b".toList, 3, 4, .error, 2, "No.".toList, ["  Why.".toList],
        by decide, by decide, lastLocation?_eq_none.mp rfl, by decide, by decide,
        List.forall_mem_singleton.mpr (by rintro c ⟨⟩; rfl)⟩,
      .aside ⟨"error TS5: (1,2)".toList, ["  c(1,1): error TS6: d ".toList], by decide,
        lastLocation?_eq_none.mp rfl, by decide⟩,
      .diagnostic ⟨['e'], 7, 1, .warning, 9, [], [], by decide, by decide,
        lastLocation?_eq_none.mp rfl, by decide, List.forall_mem_nil _, List.forall_mem_nil _⟩] _ _ (by decide +kernel) ended

end CompilerOutput

end StrictFiles
