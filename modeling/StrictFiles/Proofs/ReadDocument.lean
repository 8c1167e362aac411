import StrictFiles.Document.Reader
import StrictFiles.Proofs.PrintedDocument

/-!
What reading makes of tokens. The tokens of a document are read as that document, so a printed document
comes back, unless it holds a separator or a number that is too wide. And whatever text is read, what
comes of it is sound.
-/

namespace StrictFiles

namespace Json

section Whole

/-- A value that is to come takes no end of an array for one. -/
theorem step_atItem {token : Token} (noEnd : token ≠ .mark ']') (before : List Json)
    (around : List Frame) :
    Cursor.step (.atItem before around) token =
      Cursor.step (.atValue (.array before :: around)) token := by
  rw [Cursor.step, Cursor.step]
  exact noEnd

theorem exists_tokens (value : Json) :
    ∃ first later, value.tokens = first :: later ∧ first ≠ .mark ']' := by
  cases value with
  | bool value => cases value <;> exact ⟨_, _, rfl, nofun⟩
  | array items =>
    refine ⟨_, _, rfl, ?_⟩
    simp
  | object members =>
    refine ⟨_, _, rfl, ?_⟩
    simp
  | _ => exact ⟨_, _, rfl, nofun⟩

/-- Reading the tokens of the value completes it, whatever is around. -/
def IsReadWhole (value : Json) : Prop :=
  ∀ around, value.tokens.foldlM Cursor.step (.atValue around) = some (Cursor.complete value around)

theorem IsReadWhole.atItem {item : Json} (whole : IsReadWhole item) (before : List Json)
    (around : List Frame) :
    item.tokens.foldlM Cursor.step (.atItem before around) =
      some (.afterItem (before ++ [item]) around) := by
  have read := whole (.array before :: around)
  obtain ⟨first, later, spelt, noEnd⟩ := exists_tokens item
  rw [spelt, List.foldlM_cons] at read ⊢
  rw [step_atItem noEnd, read, Cursor.complete]

theorem foldlM_itemTokens {items : List Json} (nonempty : items ≠ [])
    (each : ∀ item ∈ items, IsReadWhole item) (before : List Json) (around : List Frame) :
    (itemTokens items).foldlM Cursor.step (.atItem before around) =
      some (.afterItem (before ++ items) around) := by
  induction items generalizing before with
  | nil => exact (nonempty rfl).elim
  | cons item others ih =>
    rw [List.forall_mem_cons] at each
    have first := each.1.atItem before around
    cases others with
    | nil => exact first
    | cons next others =>
      have later := ih (List.cons_ne_nil _ _) each.2 (before ++ [item])
      rw [List.append_assoc, List.singleton_append] at later
      rw [itemTokens, List.foldlM_append, first]
      · exact later
      · exact List.cons_ne_nil _ _

/-- A member with a key that is not there yet goes behind the others. -/
theorem IsReadWhole.atKey {value : Json} (whole : IsReadWhole value) {before : Members} {key : String}
    (fresh : key ∉ before.map Prod.fst) (around : List Frame) :
    (.string key :: .mark ':' :: value.tokens).foldlM Cursor.step (.atKey before around) =
      some (.afterMember (before ++ [(key, value)]) around) := by
  have read := whole (.object before key :: around)
  rw [Cursor.complete, Members.put_of_not_mem fresh] at read
  exact read

theorem foldlM_memberTokens {members : Members} (nonempty : members ≠ [])
    (each : ∀ member ∈ members, IsReadWhole member.2) {before : Members}
    (unique : ((before ++ members).map Prod.fst).Nodup) (around : List Frame) :
    (memberTokens members).foldlM Cursor.step (.atKey before around) =
      some (.afterMember (before ++ members) around) := by
  induction members generalizing before with
  | nil => exact (nonempty rfl).elim
  | cons member others ih =>
    rw [List.forall_mem_cons] at each
    obtain ⟨key, value⟩ := member
    have fresh : key ∉ before.map Prod.fst := by
      rw [List.map_append, List.nodup_append] at unique
      exact fun known => unique.2.2 key known key List.mem_cons_self rfl
    have first := each.1.atKey fresh around
    cases others with
    | nil => exact first
    | cons next others =>
      rw [← List.singleton_append, ← List.append_assoc] at unique ⊢
      have later := ih (List.cons_ne_nil _ _) each.2 unique
      rw [List.singleton_append, memberTokens, List.foldlM_append, first]
      · exact later
      · exact List.cons_ne_nil _ _

theorem isReadWhole {document : Json} (keyed : document.Keyed) : IsReadWhole document := by
  induction document using Json.by_parts with
  | null => exact fun around => rfl
  | bool value => cases value <;> exact fun around => rfl
  | integer n => exact fun around => rfl
  | float x => exact fun around => rfl
  | string text => exact fun around => rfl
  | array items ih =>
    intro around
    rw [Keyed, throughout_array] at keyed
    have each (item : Json) (among : item ∈ items) := ih item among (keyed.2 item among)
    cases items with
    | nil => rfl
    | cons item others =>
      have read := foldlM_itemTokens (List.cons_ne_nil _ _) each [] around
      rw [tokens, List.foldlM_cons]
      change List.foldlM Cursor.step (.atItem [] around) _ = _
      rw [List.foldlM_append, read]
      rfl
  | object members ih =>
    intro around
    have unique := keyed.self
    rw [Keyed, throughout_object] at keyed
    have each (member : String × Json) (among : member ∈ members) :=
      ih member among (keyed.2 member among)
    cases members with
    | nil => rfl
    | cons member others =>
      rw [← List.nil_append (member :: others)] at unique
      have read := foldlM_memberTokens (List.cons_ne_nil _ _) each unique around
      rw [tokens, List.foldlM_cons]
      change List.foldlM Cursor.step (.atKey [] around) _ = _
      rw [List.foldlM_append, read]
      rfl

/-- A document without floats, with each key once, is read back as it was printed, or not at all when it
holds a separator or a wide number. -/
theorem read?_printed {document : Json} (keyed : document.Keyed) (floatFree : document.FloatFree)
    {ending : List Char} (final : ending = [] ∨ ending = ['\n']) :
    read? (pretty 0 document ++ ending) = if document.isRefused then none else some document := by
  rw [read?, tokens?_printed floatFree final]
  cases document.isRefused with
  | true => rfl
  | false =>
    have read := isReadWhole keyed []
    simp only [Bool.false_eq_true, if_false, Option.bind_eq_bind, Option.bind_some]
    rw [read]
    rfl

/-- A sound document without floats is read back as it was printed, or not at all when a string or a key
in it holds a separator. -/
theorem read?_fileText {document : Json} (sound : document.Sound) (floatFree : document.FloatFree) :
    read? (Config.fileText document) = if document.hasSeparator then none else some document := by
  rw [Config.fileText, read?_printed sound.keyed floatFree (.inr rfl), isRefused, sound.hasWide,
    Bool.or_false]

end Whole

end Json

end StrictFiles
