import StrictFiles.Proofs.RenderedDiagnostics

/-!
One output behind another. When the first one ends with a whole line and the second one starts at the
margin, what is read is what is read of the first one and then what is read of the second one.
-/

namespace StrictFiles

namespace CompilerOutput

theorem lines_eq_nil {text : List Char} : lines text = [] ↔ text = [] := by
  fun_cases lines text <;> simp

/-- The lines of a text behind whole lines are its own. -/
theorem lines_append {first : List Char} (whole : IsWhole first) (second : List Char) :
    lines (first ++ second) = lines first ++ lines second := by
  fun_induction lines first with
  | case1 => rfl
  | case2 rest ih => rw [List.cons_append, lines, ih whole.of_cons, List.cons_append]
  | case3 rest ih =>
    rw [List.cons_append, List.cons_append, lines, ih whole.of_cons.of_cons,
      List.cons_append]
  | case4 c rest noFeed _ none ih =>
    obtain rfl := lines_eq_nil.mp none
    exact (noFeed (whole c rfl)).elim
  | case5 c rest noFeed noReturnFeed line others some ih =>
    have below := ih whole.of_cons
    rw [some, List.cons_append] at below
    rw [List.cons_append, lines, below]
    · rfl
    · exact noFeed
    · rintro more rfl cut
      cases rest with
      | nil => cases some
      | cons d rest => exact noReturnFeed rest rfl (by rw [(List.cons.inj cut).1])

namespace Reading

/-- What was read, put behind what had been read before. -/
def behind (earlier reading : Reading) : Reading :=
  ⟨earlier.reported ++ reading.reported, earlier.ignored ++ reading.ignored, reading.continues⟩

/-- Only a diagnostic is continued. -/
def IsGrounded (reading : Reading) : Prop :=
  reading.continues = true → reading.reported ≠ []

theorem continueLast_ne_nil {reported : List Reported} (some : reported ≠ []) (line : List Char) :
    continueLast line reported ≠ [] := by
  rw [← List.dropLast_append_getLast some, continueLast_append]
  simp

theorem continueLast_behind {reported : List Reported} (some : reported ≠ []) (line : List Char)
    (before : List Reported) :
    continueLast line (before ++ reported) = before ++ continueLast line reported := by
  rw [← List.dropLast_append_getLast some, ← List.append_assoc, continueLast_append,
    continueLast_append, List.append_assoc]

theorem readLine_blank {line : List Char} (blank : isBlankLine line = true) (reading : Reading) :
    reading.readLine line = reading := by
  rw [readLine, if_pos blank]

/-- A line at the margin settles by itself what it is, and what the lines below it continue. -/
theorem readLine_atMargin {line : List Char} (something : isBlankLine line = false)
    (atMargin : isIndented line = false) (reading : Reading) :
    reading.readLine line = reading.behind (start.readLine line) := by
  simp only [readLine, something, atMargin, Bool.false_eq_true, if_false]
  cases reported? line with
  | some diagnostic => simp [behind, start]
  | none => simp [behind, start]

theorem isGrounded_start : start.IsGrounded :=
  nofun

section Lines

variable {reading : Reading} (grounded : reading.IsGrounded)
include grounded

theorem IsGrounded.readLine (line : List Char) : (reading.readLine line).IsGrounded := by
  rw [Reading.readLine]
  split_ifs with blank indented continued
  · exact grounded
  · exact fun _ => continueLast_ne_nil (grounded continued) _
  · exact grounded
  · cases reported? line with
    | some diagnostic => exact fun _ => by simp
    | none => exact fun continued => absurd continued Bool.false_ne_true

/-- A line is read without regard to what had been read before the reading began. -/
theorem readLine_behind (earlier : Reading) (line : List Char) :
    (earlier.behind reading).readLine line = earlier.behind (reading.readLine line) := by
  by_cases blank : isBlankLine line = true
  · rw [readLine_blank blank, readLine_blank blank]
  rw [Bool.not_eq_true] at blank
  by_cases indented : isIndented line = true
  · have flag : (earlier.behind reading).continues = reading.continues := rfl
    simp only [Reading.readLine, blank, indented, flag, if_true, Bool.false_eq_true, if_false]
    split_ifs with continued
    · -- what is continued was read in this reading, not before it
      rw [behind, behind, continueLast_behind (grounded continued)]
    · rfl
  · rw [Bool.not_eq_true] at indented
    rw [readLine_atMargin blank indented, readLine_atMargin blank indented reading]
    simp only [behind, List.append_assoc]

theorem foldl_readLine_behind (earlier : Reading) (text : List (List Char)) :
    text.foldl Reading.readLine (earlier.behind reading) =
      earlier.behind (text.foldl Reading.readLine reading) := by
  induction text generalizing reading with
  | nil => rfl
  | cons line text ih =>
    rw [List.foldl_cons, readLine_behind grounded, ih (grounded.readLine line), List.foldl_cons]

end Lines

/-- Lines that begin at the margin are read after any others as they are by themselves. -/
theorem foldl_readLine_atMargin {text : List (List Char)}
    (atMargin : ∀ line ∈ text.find? (fun line => !isBlankLine line), isIndented line = false)
    (reading : Reading) :
    (text.foldl readLine reading).reported =
        reading.reported ++ (text.foldl readLine start).reported ∧
      (text.foldl readLine reading).ignored =
        reading.ignored ++ (text.foldl readLine start).ignored := by
  induction text with
  | nil => exact ⟨(List.append_nil _).symm, (List.append_nil _).symm⟩
  | cons line text ih =>
    rw [List.foldl_cons, List.foldl_cons]
    cases blank : isBlankLine line with
    | true =>
      rw [List.find?_cons_of_neg (by simp [blank])] at atMargin
      rw [readLine_blank blank, readLine_blank blank]
      exact ih atMargin
    | false =>
      have here : isIndented line = false :=
        atMargin line (List.find?_cons_of_pos (by simp [blank]))
      rw [readLine_atMargin blank here,
        foldl_readLine_behind (isGrounded_start.readLine line)]
      exact ⟨rfl, rfl⟩

end Reading

/-- The diagnostics of two outputs, one behind the other, are those of the first one and then those of
the second one, when the first one ends with a whole line and the second one starts at the margin, but for
blank lines. The same is so for the lines that are about no file. -/
theorem read_append {first second : List Char} (whole : IsWhole first)
    (atMargin : ∀ line ∈ (lines second).find? (fun line => !isBlankLine line),
      isIndented line = false) :
    (read (first ++ second)).reported = (read first).reported ++ (read second).reported ∧
      (read (first ++ second)).ignored = (read first).ignored ++ (read second).ignored := by
  rw [read, lines_append whole, List.foldl_append]
  exact Reading.foldl_readLine_atMargin atMargin _

/-- The first output ends with the continued message of a diagnostic, the second one starts with a blank
line and a line about no file, below which an indented line continues nothing. -/
theorem read_append_ignoredLine :
    (read ("a.ts(1,2): error TS1: No.\n  Why.\n".toList ++
        " \nerror TS5: b\n  c\nd.ts(3,4): error TS2: ".toList)).reported =
      [⟨"a.ts".toList, 1, 2, 1, "No.\n  Why.".toList⟩, ⟨"d.ts".toList, 3, 4, 2, []⟩] := by
  have whole : IsWhole "a.ts(1,2): error TS1: No.\n  Why.\n".toList := by decide
  have atMargin : ∀ line ∈ (lines " \nerror TS5: b\n  c\nd.ts(3,4): error TS2: ".toList).find?
      (fun line => !isBlankLine line), isIndented line = false := by decide +kernel
  have first : (read "a.ts(1,2): error TS1: No.\n  Why.\n".toList).reported =
      [⟨"a.ts".toList, 1, 2, 1, "No.\n  Why.".toList⟩] := by decide +kernel
  have second : (read " \nerror TS5: b\n  c\nd.ts(3,4): error TS2: ".toList).reported =
      [⟨"d.ts".toList, 3, 4, 2, []⟩] := by decide +kernel
  rw [(read_append whole atMargin).1, first, second]
  rfl

end CompilerOutput

end StrictFiles
