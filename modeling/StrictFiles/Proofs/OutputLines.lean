import Mathlib.Data.List.Forall2
import StrictFiles.Compiler.Output

/-!
The lines of a text. Every line is read as it was put there, whichever way it was ended, except that a
carriage return at its end may be taken for part of that end.
-/

namespace StrictFiles

/-- The text consists of whole lines: it is empty or ends with a line feed. -/
def IsWhole (text : List Char) : Prop :=
  ∀ c ∈ text.getLast?, c = '\n'

instance (text : List Char) : Decidable (IsWhole text) :=
  decidable_of_iff (text.getLast?.all (· = '\n') = true) (by simp [IsWhole, Option.all_eq_true])

namespace IsWhole

theorem of_cons {c : Char} {rest : List Char} (whole : IsWhole (c :: rest)) : IsWhole rest := by
  cases rest with
  | nil => exact nofun
  | cons d rest => rwa [IsWhole, List.getLast?_cons_cons] at whole

theorem feed_mem {text : List Char} (whole : IsWhole text) (something : text ≠ []) : '\n' ∈ text := by
  have last := List.getLast_mem something
  rwa [whole _ (List.getLast?_eq_some_getLast something)] at last

/-- A beginning of whole lines that holds all their line ends is the whole. -/
theorem eq_of_begins {first text : List Char} (whole : IsWhole text) (begins : first <+: text)
    (same : first.count '\n' = text.count '\n') : first = text := by
  obtain ⟨more, rfl⟩ := begins
  rw [List.count_append, Nat.left_eq_add, List.count_eq_zero] at same
  cases last : more.getLast? with
  | none => rw [List.getLast?_eq_none_iff.mp last, List.append_nil]
  | some c =>
    obtain rfl := whole c (by rw [List.getLast?_append, last]; rfl)
    exact (same (List.mem_of_getLast? last)).elim

end IsWhole

namespace CompilerOutput

/-- The text consists of these lines. Each is ended by a line feed, with or without a carriage return
in front of it; the last one may have no end. -/
inductive Ended : List (List Char) → List Char → Prop
  | nothing : Ended [] []
  | last {line : List Char} : line ≠ [] → '\n' ∉ line → Ended [line] line
  | feed {line text : List Char} {others : List (List Char)} :
      '\n' ∉ line → Ended others text → Ended (line :: others) (line ++ '\n' :: text)
  | returnFeed {line text : List Char} {others : List (List Char)} :
      '\n' ∉ line → Ended others text → Ended (line :: others) (line ++ '\r' :: '\n' :: text)

/-- A line as it is read: without a carriage return at its end, or as it stands. -/
def IsReadOf (read line : List Char) : Prop :=
  line = read ∨ line = read ++ ['\r']

section Lines

variable {line : List Char} (plain : '\n' ∉ line)
include plain

theorem lines_last (something : line ≠ []) : lines line = [line] := by
  induction line with
  | nil => exact (something rfl).elim
  | cons c rest ih =>
    rw [List.mem_cons, not_or] at plain
    cases rest with
    | nil =>
      rw [lines]
      · rfl
      · exact Ne.symm plain.1
      · simp
    | cons d rest =>
      have noFeed : '\n' ≠ d := fun same => plain.2 (same ▸ List.mem_cons_self)
      rw [lines, ih plain.2 (List.cons_ne_nil d rest)]
      · exact Ne.symm plain.1
      · rintro later _ cut
        exact noFeed (List.cons.inj cut).1.symm

theorem lines_returnFeed (text : List Char) :
    lines (line ++ '\r' :: '\n' :: text) = line :: lines text := by
  induction line with
  | nil => rfl
  | cons c rest ih =>
    rw [List.mem_cons, not_or] at plain
    rw [List.cons_append, lines, ih plain.2]
    · exact Ne.symm plain.1
    · rintro later _ cut
      cases rest with
      | nil => cases cut
      | cons d rest => exact plain.2 ((List.cons.inj cut).1 ▸ List.mem_cons_self)

theorem lines_feed (noReturn : line.getLast? ≠ some '\r') (text : List Char) :
    lines (line ++ '\n' :: text) = line :: lines text := by
  induction line with
  | nil => rfl
  | cons c rest ih =>
    rw [List.mem_cons, not_or] at plain
    cases rest with
    | nil =>
      have other : c ≠ '\r' := fun same => noReturn (by rw [same]; rfl)
      have empty : lines ('\n' :: text) = [] :: lines text := rfl
      rw [List.singleton_append, lines, empty]
      · exact Ne.symm plain.1
      · exact fun _ same _ => other same
    | cons d rest =>
      have noFeed : '\n' ≠ d := fun same => plain.2 (same ▸ List.mem_cons_self)
      rw [List.getLast?_cons_cons] at noReturn
      rw [List.cons_append, lines, ih plain.2 noReturn]
      · exact Ne.symm plain.1
      · rintro later _ cut
        exact noFeed (List.cons.inj cut).1.symm

end Lines

/-- The lines of a text are read off it, one by one. -/
theorem Ended.lines {printed : List (List Char)} {text : List Char} (ended : Ended printed text) :
    List.Forall₂ IsReadOf (lines text) printed := by
  induction ended with
  | nothing => exact .nil
  | last something plain =>
    rw [lines_last plain something]
    exact .cons (.inl rfl) .nil
  | @feed line text others plain _ ih =>
    by_cases ending : line.getLast? = some '\r'
    · obtain ⟨front, rfl⟩ := List.getLast?_eq_some_iff.mp ending
      rw [List.mem_append, not_or] at plain
      rw [List.append_assoc, List.singleton_append, lines_returnFeed plain.1]
      exact .cons (.inr rfl) ih
    · rw [lines_feed plain ending]
      exact .cons (.inl rfl) ih
  | returnFeed plain _ ih =>
    rw [lines_returnFeed plain]
    exact .cons (.inl rfl) ih

namespace IsReadOf

variable {read line : List Char}

theorem eq_of_no_return (same : IsReadOf read line) (noReturn : line.getLast? ≠ some '\r') :
    read = line := by
  rcases same with rfl | rfl
  · rfl
  · exact (noReturn (by simp)).elim

theorem isBlankLine (same : IsReadOf read line) :
    CompilerOutput.isBlankLine read = CompilerOutput.isBlankLine line := by
  rcases same with rfl | rfl
  · rfl
  · have blank : CharClass.blank.has '\r' = true := rfl
    simp [CompilerOutput.isBlankLine, blank]

/-- What is not blank starts as it did. -/
theorem exists_cons (same : IsReadOf read line) (something : CompilerOutput.isBlankLine line = false) :
    ∃ c rest tail, read = c :: rest ∧ line = c :: tail ∧ IsReadOf rest tail := by
  rw [← same.isBlankLine] at something
  cases read with
  | nil => cases something
  | cons c rest =>
    rcases same with rfl | rfl
    · exact ⟨c, rest, rest, rfl, rfl, .inl rfl⟩
    · exact ⟨c, rest, rest ++ ['\r'], rfl, rfl, .inr rfl⟩

end IsReadOf

/-- Lines that have no carriage return at their ends are read as they stand. -/
theorem eq_of_no_returns {read printed : List (List Char)} (same : List.Forall₂ IsReadOf read printed)
    (noReturn : ∀ line ∈ printed, line.getLast? ≠ some '\r') : read = printed := by
  induction same with
  | nil => rfl
  | cons here _ ih =>
    obtain ⟨noReturnHere, noReturnBelow⟩ := List.forall_mem_cons.mp noReturn
    rw [here.eq_of_no_return noReturnHere, ih noReturnBelow]

end CompilerOutput

end StrictFiles
