import StrictFiles.Proofs.Attribution

/-!
The verdicts on files, said from the diagnostics alone: the errors of a file are those that name it, in
the order they came, and the files with errors are in the order of their first ones. What was reported
besides, and how the reports on different files were mixed, makes no difference to any file.
-/

namespace StrictFiles

/-- The diagnostics that count against a file. -/
def errorsIn (diagnostics : List Diagnostic) (file : Path) : List Diagnostic :=
  diagnostics.filter fun diagnostic => diagnostic.file = file ∧ diagnostic.code ≠ 0

namespace ErrorTable

/-- A table with one row a file takes an error into the row of its file, or into a new one. -/
theorem add_rows {files : List Path} (unique : files.Nodup) (rows : Path → List Diagnostic)
    (diagnostic : Diagnostic) :
    add (files.map fun file => (file, rows file)) diagnostic =
      if diagnostic.file ∈ files then
        files.map fun file =>
          (file, if file = diagnostic.file then rows file ++ [diagnostic] else rows file)
      else files.map (fun file => (file, rows file)) ++ [(diagnostic.file, [diagnostic])] := by
  induction files with
  | nil => rfl
  | cons file rest ih =>
    obtain ⟨fresh, unique⟩ := List.nodup_cons.mp unique
    rw [List.map_cons, add]
    by_cases here : file = diagnostic.file
    · have elsewhere : ∀ other ∈ rest, other ≠ diagnostic.file := by
        rintro other among rfl
        exact fresh (here ▸ among)
      rw [if_pos here, if_pos (by simp [here]), List.map_cons, if_pos here]
      congr 1
      exact List.map_congr_left fun other among => by rw [if_neg (elsewhere other among)]
    · rw [if_neg here, ih unique]
      by_cases known : diagnostic.file ∈ rest
      · rw [if_pos known, if_pos (List.mem_cons_of_mem _ known), List.map_cons, if_neg here]
      · rw [if_neg known, if_neg (by simp [known, Ne.symm here]), List.cons_append]

/-- One row for each file, in the order of first naming, each with the diagnostics that name it. -/
theorem ofList_eq (diagnostics : List Diagnostic) :
    ofList diagnostics = (diagnostics.map (·.file)).eraseDups.map fun file =>
      (file, diagnostics.filter (·.file = file)) := by
  simp only [← distinct_eq_eraseDups]
  induction diagnostics using List.reverseRecOn with
  | nil => rfl
  | append_singleton diagnostics last ih =>
    have grown : ofList (diagnostics ++ [last]) = (ofList diagnostics).add last := by
      rw [ofList, List.foldl_append, List.foldl_cons, List.foldl_nil, ofList]
    rw [grown, ih, add_rows (distinct_nodup _), List.map_append, List.map_singleton, distinct_concat]
    split
    · apply List.map_congr_left
      intro file _
      rw [List.filter_append]
      by_cases named : file = last.file
      · simp [named]
      · simp [named, Ne.symm named]
    · rename_i fresh
      rw [List.map_append, List.map_singleton]
      congr 1
      · apply List.map_congr_left
        rintro file among
        have other : last.file ≠ file := by
          rintro rfl
          exact fresh among
        simp [List.filter_append, other]
      · have nothing : diagnostics.filter (·.file = last.file) = [] := by
          rw [List.filter_eq_nil_iff]
          intro diagnostic among named
          refine fresh (mem_distinct.mpr (List.mem_map.mpr ⟨diagnostic, among, ?_⟩))
          simpa using named
        simp [List.filter_append, nothing]

end ErrorTable

/-- The errors of a candidate are what is attributed to it. -/
theorem filter_attributed {candidates : List Path} (diagnostics : List Diagnostic) {file : Path}
    (candidate : file ∈ candidates) :
    (attributed candidates diagnostics).filter (·.file = file) = errorsIn diagnostics file := by
  rw [attributed, List.filter_filter, errorsIn]
  apply List.filter_congr
  intro diagnostic _
  by_cases named : diagnostic.file = file
  · simp [named, candidate, Diagnostic.isError]
  · simp [named]

theorem filter_attributed_of_foreign {candidates : List Path} (diagnostics : List Diagnostic)
    {file : Path} (foreign : file ∉ candidates) :
    (attributed candidates diagnostics).filter (·.file = file) = [] := by
  rw [attributed, List.filter_filter, List.filter_eq_nil_iff]
  rintro diagnostic _ both
  simp only [Bool.and_eq_true, decide_eq_true_eq] at both
  exact foreign (both.1 ▸ both.2.2)

/-- What the verdicts are when `requested` has been checked for the candidates and the diagnostics were
answered. -/
structure Attributes (candidates requested : List Path) (diagnostics : List Diagnostic)
    (verdicts : Verdicts) : Prop where
  checked : verdicts.checked = requested
  row : ∀ file, verdicts.diagnostics? file =
    if file ∈ candidates ∧ errorsIn diagnostics file ≠ [] then some (errorsIn diagnostics file)
    else none
  /-- In the order of the first diagnostics that count. -/
  failing : verdicts.failing =
    ((diagnostics.filter fun diagnostic =>
      diagnostic.code ≠ 0 ∧ diagnostic.file ∈ candidates).map (·.file)).eraseDups
  table : verdicts.errors = verdicts.failing.map fun file => (file, errorsIn diagnostics file)
  errorFree : verdicts.errorFree = requested.filter fun file => file ∉ verdicts.failing

theorem diagnostics?_verdictsOn (vendor : VendorFilter) (candidates : List Path)
    (diagnostics : List Diagnostic) (file : Path) :
    (verdictsOn vendor candidates diagnostics).diagnostics? file =
      if file ∈ candidates ∧ errorsIn diagnostics file ≠ [] then some (errorsIn diagnostics file)
      else none := by
  rw [Verdicts.diagnostics?, verdictsOn, ErrorTable.lookup_ofList]
  by_cases candidate : file ∈ candidates
  · rw [filter_attributed diagnostics candidate]
    by_cases none : errorsIn diagnostics file = []
    · rw [if_pos none, if_neg (fun both => both.2 none)]
    · rw [if_neg none, if_pos ⟨candidate, none⟩]
  · rw [filter_attributed_of_foreign diagnostics candidate, if_pos rfl,
      if_neg (fun both => candidate both.1)]

theorem mem_failing_iff {verdicts : Verdicts} {file : Path} :
    file ∈ verdicts.failing ↔ verdicts.hasErrors file = true := by
  rw [Verdicts.failing, Verdicts.hasErrors, Verdicts.diagnostics?, List.lookup_isSome_iff, List.mem_map]
  simp only [beq_iff_eq]
  simp only [eq_comm]

theorem verdictsOn_attributes (vendor : VendorFilter) (candidates : List Path)
    (diagnostics : List Diagnostic) :
    Attributes candidates (filesToCheck vendor candidates) diagnostics
      (verdictsOn vendor candidates diagnostics) := by
  have failing : (verdictsOn vendor candidates diagnostics).failing =
      ((attributed candidates diagnostics).map (·.file)).eraseDups := by
    rw [Verdicts.failing, verdictsOn, ErrorTable.ofList_eq, List.map_map]
    exact List.map_id _
  refine ⟨rfl, diagnostics?_verdictsOn vendor candidates diagnostics, ?_, ?_, ?_⟩
  · rw [failing, attributed]
    simp [Diagnostic.isError]
  · rw [failing, verdictsOn, ErrorTable.ofList_eq]
    apply List.map_congr_left
    intro file among
    rw [← distinct_eq_eraseDups, mem_distinct, List.mem_map] at among
    obtain ⟨diagnostic, counts, rfl⟩ := among
    rw [attributed, List.mem_filter, Bool.and_eq_true, decide_eq_true_iff] at counts
    rw [filter_attributed diagnostics counts.2.2]
  · apply List.filter_congr
    intro file _
    rw [Bool.eq_iff_iff, Bool.not_eq_true', ← Bool.not_eq_true, ← mem_failing_iff,
      decide_eq_true_iff]

/-- The same reports on the candidates, told with more besides them or in another mixture. -/
inductive Retold (candidates : List Path) (told : List Diagnostic) : List Diagnostic → Prop
  | asTold : Retold candidates told told
  /-- Diagnostics without a code are put in, or some on files that are no candidates. -/
  | inserted {before after extra : List Diagnostic} :
      Retold candidates told (before ++ after) →
      (∀ diagnostic ∈ extra, diagnostic.code = 0 ∨ diagnostic.file ∉ candidates) →
      Retold candidates told (before ++ extra ++ after)
  /-- Those of different files change places; those of one file stay in order. -/
  | reordered {mixed other : List Diagnostic} :
      Retold candidates told mixed →
      (∀ file, other.filter (·.file = file) = mixed.filter (·.file = file)) →
      Retold candidates told other

/-- No candidate has other errors for it. -/
theorem Retold.errorsIn_eq {candidates : List Path} {told retold : List Diagnostic}
    (same : Retold candidates told retold) {file : Path} (candidate : file ∈ candidates) :
    errorsIn retold file = errorsIn told file := by
  induction same with
  | asTold => rfl
  | @inserted before after extra _ irrelevant ih =>
    have nothing : errorsIn extra file = [] := by
      rw [errorsIn, List.filter_eq_nil_iff]
      intro diagnostic among counts
      obtain ⟨rfl, code⟩ := of_decide_eq_true counts
      exact (irrelevant diagnostic among).elim code fun foreign => foreign candidate
    rw [← ih]
    simp only [errorsIn, List.filter_append] at nothing ⊢
    rw [nothing, List.append_nil]
  | @reordered mixed other _ each ih =>
    have byFile (diagnostics : List Diagnostic) : errorsIn diagnostics file =
        (diagnostics.filter (·.file = file)).filter (·.code ≠ 0) := by
      rw [errorsIn, List.filter_filter]
      apply List.filter_congr
      intro diagnostic _
      rw [Bool.decide_and, Bool.and_comm]
    rw [← ih, byFile, byFile, each]

/-- Verdicts on the same candidates agree on every file when each candidate has the same errors. -/
theorem Attributes.agree {candidates requested : List Path} {told retold : List Diagnostic}
    {verdicts other : Verdicts} (first : Attributes candidates requested told verdicts)
    (second : Attributes candidates requested retold other)
    (same : ∀ file ∈ candidates, errorsIn retold file = errorsIn told file) :
    (∀ file, other.diagnostics? file = verdicts.diagnostics? file) ∧
      other.errorFree = verdicts.errorFree := by
  have rows (file : Path) : other.diagnostics? file = verdicts.diagnostics? file := by
    rw [first.row, second.row]
    by_cases candidate : file ∈ candidates
    · rw [same file candidate]
    · rw [if_neg fun both => candidate both.1, if_neg fun both => candidate both.1]
  refine ⟨rows, ?_⟩
  rw [first.errorFree, second.errorFree]
  apply List.filter_congr
  intro file _
  simp only [mem_failing_iff, Verdicts.hasErrors, rows]

/-- Diagnostics are attributed exactly. The front end is asked once, for the candidates that are not
vendored, each at its first place. What it answers decides the errors of every file, the order of the
files that have some, and the files that have none; and other reports, which say the same of the
candidates, lead to the same errors and the same files without any. -/
theorem attributes_exactly (frontEnd : FrontEnd) (candidates : List Path) (options : Json)
    (vendor : VendorFilter) :
    let requested := (candidates.filter fun file => !vendor.covers file).eraseDups
    (classify frontEnd candidates options vendor).requests = [⟨requested, options⟩] ∧
    ∀ diagnostics, frontEnd.answer requested options = .ok diagnostics →
      ∃ verdicts, (classify frontEnd candidates options vendor).result = .ok verdicts ∧
        Attributes candidates requested diagnostics verdicts ∧
        ∀ (otherFrontEnd : FrontEnd) (others : List Diagnostic),
          otherFrontEnd.answer requested options = .ok others →
          Retold candidates diagnostics others →
          ∃ otherVerdicts,
            (classify otherFrontEnd candidates options vendor).result = .ok otherVerdicts ∧
            (∀ file, otherVerdicts.diagnostics? file = verdicts.diagnostics? file) ∧
            otherVerdicts.errorFree = verdicts.errorFree := by
  intro requested
  have asked : filesToCheck vendor candidates = requested := by
    rw [filesToCheck, ← distinct_filter, distinct_eq_eraseDups]
  have results {asker : FrontEnd} {answered : List Diagnostic}
      (answer : asker.answer requested options = .ok answered) :
      (classify asker candidates options vendor).result =
        .ok (verdictsOn vendor candidates answered) := by
    rw [classify_result, asked, answer]
    rfl
  refine ⟨by rw [classify, asked], ?_⟩
  intro diagnostics answer
  have attributes := verdictsOn_attributes vendor candidates diagnostics
  rw [asked] at attributes
  refine ⟨_, results answer, attributes, ?_⟩
  intro otherFrontEnd others otherAnswer retold
  have otherAttributes := verdictsOn_attributes vendor candidates others
  rw [asked] at otherAttributes
  exact ⟨_, results otherAnswer,
    attributes.agree otherAttributes fun file candidate => retold.errorsIn_eq candidate⟩

namespace MixedReports

def passing : Path := .absolute [⟨[112], by decide⟩]

def failing : Path := .absolute [⟨[113], by decide⟩]

def vendored : Path := .absolute [⟨[118], by decide⟩, ⟨[109], by decide⟩]

def foreign : Path := .absolute [⟨[111], by decide⟩]

def report (file : Path) (code : Nat) : Diagnostic := ⟨file, code, "", 0, 1, 1⟩

def frontEnd (reports : List Diagnostic) : FrontEnd := ⟨fun _ _ => .ok ⟨.ok reports⟩⟩

def verdicts (reports : List Diagnostic) : Except CompilerError Verdicts :=
  (classify (frontEnd reports) [passing, failing, passing, vendored] (.object []) ⟨[[118]]⟩).result

end MixedReports

/-- A file without a code against it passes, and its neighbours fail, one of them vendored; with the
two in the other order and a report on a foreign file between them the same holds. -/
theorem attributes_exactly_mixedReports :
    let told := [MixedReports.report MixedReports.failing 1,
      MixedReports.report MixedReports.vendored 2, MixedReports.report MixedReports.passing 0]
    let retold := [MixedReports.report MixedReports.vendored 2,
      MixedReports.report MixedReports.foreign 3, MixedReports.report MixedReports.failing 1,
      MixedReports.report MixedReports.passing 0]
    ∃ verdicts otherVerdicts,
      MixedReports.verdicts told = .ok verdicts ∧
      verdicts.failing = [MixedReports.failing, MixedReports.vendored] ∧
      verdicts.errorFree = [MixedReports.passing] ∧
      Retold [MixedReports.passing, MixedReports.failing, MixedReports.passing, MixedReports.vendored]
        told retold ∧
      MixedReports.verdicts retold = .ok otherVerdicts ∧
      otherVerdicts.errorFree = [MixedReports.passing] := by
  intro told retold
  obtain ⟨_, attributed⟩ := attributes_exactly (MixedReports.frontEnd told)
    [MixedReports.passing, MixedReports.failing, MixedReports.passing, MixedReports.vendored]
    (.object []) ⟨[[118]]⟩
  obtain ⟨verdicts, first, attributes, others⟩ := attributed told rfl
  have swapped : ∀ file, [MixedReports.report MixedReports.vendored 2,
      MixedReports.report MixedReports.failing 1, MixedReports.report MixedReports.passing 0].filter
        (·.file = file) = told.filter (·.file = file) := by
    intro file
    by_cases here : MixedReports.vendored = file
    · subst here
      decide
    · simp [told, MixedReports.report, List.filter_cons, here]
  have mixed : Retold [MixedReports.passing, MixedReports.failing, MixedReports.passing,
      MixedReports.vendored] told retold :=
    @Retold.inserted _ _ [_] _ [_] (.reordered .asTold swapped) (by decide)
  obtain ⟨otherVerdicts, second, _, same⟩ := others (MixedReports.frontEnd retold) retold rfl mixed
  have failing : verdicts.failing = [MixedReports.failing, MixedReports.vendored] :=
    attributes.failing.trans (by decide)
  have errorFree : verdicts.errorFree = [MixedReports.passing] := by
    rw [attributes.errorFree, failing]
    decide
  exact ⟨verdicts, otherVerdicts, first, failing, errorFree, mixed, second, same.trans errorFree⟩

end StrictFiles
