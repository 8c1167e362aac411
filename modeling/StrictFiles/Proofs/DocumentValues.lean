import StrictFiles.Proofs.AtomicUpdate

/-!
The values in a document, at every depth. What a document is like is said of each value in it: that
whole numbers have 64 bits and keys come once, that there are no floats, and that no text holds a line
separator.
-/

namespace StrictFiles

namespace Json

mutual

/-- A document with all the values in it. -/
def values : Json → List Json
  | .array items => .array items :: itemValues items
  | .object members => .object members :: memberValues members
  | value => [value]

def itemValues : List Json → List Json
  | [] => []
  | item :: rest => values item ++ itemValues rest

def memberValues : List (String × Json) → List Json
  | [] => []
  | (_, value) :: rest => values value ++ memberValues rest

end

/-- To know something of every document it is enough to know it of those without parts, of arrays when
it is known of the items, and of objects when it is known of the values of the members. -/
theorem by_parts {motive : Json → Prop} (null : motive .null) (bool : ∀ value, motive (.bool value))
    (integer : ∀ n, motive (.integer n)) (float : ∀ x, motive (.float x))
    (string : ∀ text, motive (.string text))
    (array : ∀ items, (∀ item ∈ items, motive item) → motive (.array items))
    (object : ∀ members : Members, (∀ member ∈ members, motive member.2) → motive (.object members))
    (document : Json) : motive document :=
  match document with
  | .null => null
  | .bool value => bool value
  | .integer n => integer n
  | .float x => float x
  | .string text => string text
  | .array items => array items fun item _ =>
    by_parts null bool integer float string array object item
  | .object members => object members fun member _ =>
    by_parts null bool integer float string array object member.2
  termination_by document
  decreasing_by
    · rename_i among
      have smaller := List.sizeOf_lt_of_mem among
      simp only [Json.array.sizeOf_spec]
      omega
    · rename_i among
      have smaller := List.sizeOf_lt_of_mem among
      have inside : sizeOf member = 1 + sizeOf member.1 + sizeOf member.2 := rfl
      simp only [Json.object.sizeOf_spec]
      omega

theorem mem_itemValues {items : List Json} {value : Json} :
    value ∈ itemValues items ↔ ∃ item ∈ items, value ∈ item.values := by
  induction items with
  | nil => simp [itemValues]
  | cons item rest ih => simp only [itemValues, List.mem_append, List.mem_cons,
    exists_eq_or_imp, ih]

theorem mem_memberValues {members : Members} {value : Json} :
    value ∈ memberValues members ↔ ∃ member ∈ members, value ∈ member.2.values := by
  induction members with
  | nil => simp [memberValues]
  | cons member rest ih => simp only [memberValues, List.mem_append, List.mem_cons,
    exists_eq_or_imp, ih]

/-- Every value in a document, itself included, has a property. -/
def Throughout (property : Json → Prop) (document : Json) : Prop :=
  ∀ value ∈ document.values, property value

instance (property : Json → Prop) [DecidablePred property] (document : Json) :
    Decidable (Throughout property document) :=
  inferInstanceAs (Decidable (∀ value ∈ document.values, property value))

section Throughout

variable {property : Json → Prop}

theorem throughout_array {items : List Json} :
    Throughout property (.array items) ↔
      property (.array items) ∧ ∀ item ∈ items, Throughout property item := by
  simp only [Throughout, values, List.forall_mem_cons, mem_itemValues]
  constructor
  · rintro ⟨own, inside⟩
    exact ⟨own, fun item among value within => inside value ⟨item, among, within⟩⟩
  · rintro ⟨own, inside⟩
    refine ⟨own, ?_⟩
    rintro value ⟨item, among, within⟩
    exact inside item among value within

theorem throughout_object {members : Members} :
    Throughout property (.object members) ↔
      property (.object members) ∧ ∀ member ∈ members, Throughout property member.2 := by
  simp only [Throughout, values, List.forall_mem_cons, mem_memberValues]
  constructor
  · rintro ⟨own, inside⟩
    exact ⟨own, fun member among value within => inside value ⟨member, among, within⟩⟩
  · rintro ⟨own, inside⟩
    refine ⟨own, ?_⟩
    rintro value ⟨member, among, within⟩
    exact inside member among value within

theorem Throughout.self {document : Json} (throughout : Throughout property document) :
    property document :=
  throughout document (by cases document <;> simp [values])

/-- A value without parts is all there is in it. -/
theorem throughout_alone {value : Json} (alone : value.values = [value]) (own : property value) :
    Throughout property value := by
  intro inside among
  rw [alone, List.mem_singleton] at among
  rwa [among]

end Throughout

/-- A whole number has 64 bits, and an object has each of its keys once. -/
def IsSound : Json → Prop
  | .integer n => -0x8000000000000000 ≤ n ∧ n < 0x8000000000000000
  | .object members => (members.map Prod.fst).Nodup
  | _ => True

def isFloat : Json → Bool
  | .float _ => true
  | _ => false

/-- The texts that a value consists of itself: a string, or the keys of an object. -/
def ownTexts : Json → List String
  | .string text => [text]
  | .object members => members.map Prod.fst
  | _ => []

/-- The two line ends that are no controls: line separator and paragraph separator. -/
def isSeparator (c : Char) : Bool :=
  c = '\u2028' || c = '\u2029'

def holdsSeparator (text : String) : Bool :=
  text.toList.any isSeparator

/-- Whether a string or a key in the document holds a separator. -/
def hasSeparator (document : Json) : Bool :=
  document.values.any fun value => value.ownTexts.any holdsSeparator

/-- Whether the value is a whole number that 64 bits with a sign do not hold. -/
def isWide : Json → Bool
  | .integer n => !(-0x8000000000000000 ≤ n && n < 0x8000000000000000)
  | _ => false

def hasWide (document : Json) : Bool :=
  document.values.any isWide

/-- Whether the document is refused once it is printed: a separator or a wide number is written as it
stands, but not read. -/
def isRefused (document : Json) : Bool :=
  document.hasSeparator || document.hasWide

/-- An object has each of its keys once. -/
def IsKeyed : Json → Prop
  | .object members => (members.map Prod.fst).Nodup
  | _ => True

instance : DecidablePred IsKeyed
  | .object members => inferInstanceAs (Decidable (members.map Prod.fst).Nodup)
  | .null | .bool _ | .integer _ | .float _ | .string _ | .array _ => .isTrue trivial

/-- With each key once, at any depth. -/
def Keyed (document : Json) : Prop :=
  Throughout IsKeyed document

instance (document : Json) : Decidable document.Keyed :=
  inferInstanceAs (Decidable (Throughout IsKeyed document))

/-- Without floats, at any depth. -/
def FloatFree (document : Json) : Prop :=
  Throughout (fun value => value.isFloat = false) document

instance (document : Json) : Decidable document.FloatFree :=
  inferInstanceAs (Decidable (Throughout (fun value => value.isFloat = false) document))

/-- Sound at every depth. -/
def Sound (document : Json) : Prop :=
  Throughout IsSound document

theorem hasSeparator_eq_false {document : Json} :
    document.hasSeparator = false ↔
      Throughout (fun value => ∀ text ∈ value.ownTexts, holdsSeparator text = false) document := by
  simp [hasSeparator, Throughout]

theorem hasWide_eq_false {document : Json} :
    document.hasWide = false ↔ Throughout (fun value => value.isWide = false) document := by
  simp [hasWide, Throughout]

/-- What is refused of a document is one of its own texts or numbers, or in one of its parts. -/
theorem isRefused_iff {document : Json} :
    document.isRefused = true ↔ ∃ value ∈ document.values,
      (value.ownTexts.any holdsSeparator || value.isWide) = true := by
  simp only [isRefused, hasSeparator, hasWide, Bool.or_eq_true, List.any_eq_true, and_or_left,
    exists_or]

theorem isRefused_string (text : String) : (Json.string text).isRefused = holdsSeparator text := by
  simp [isRefused, hasSeparator, hasWide, values, ownTexts, isWide]

theorem isRefused_array (items : List Json) :
    (Json.array items).isRefused = items.any isRefused := by
  rw [Bool.eq_iff_iff, isRefused_iff, List.any_eq_true, values]
  constructor
  · rintro ⟨value, among, own⟩
    rcases List.mem_cons.mp among with rfl | inside
    · cases own
    · obtain ⟨item, among, within⟩ := mem_itemValues.mp inside
      exact ⟨item, among, isRefused_iff.mpr ⟨value, within, own⟩⟩
  · rintro ⟨item, among, refused⟩
    obtain ⟨value, within, own⟩ := isRefused_iff.mp refused
    exact ⟨value, List.mem_cons_of_mem _ (mem_itemValues.mpr ⟨item, among, within⟩), own⟩

theorem isRefused_object (members : Members) :
    (Json.object members).isRefused =
      members.any fun member => holdsSeparator member.1 || member.2.isRefused := by
  rw [Bool.eq_iff_iff, isRefused_iff, List.any_eq_true, values]
  constructor
  · rintro ⟨value, among, own⟩
    rcases List.mem_cons.mp among with rfl | inside
    · rw [ownTexts, isWide, Bool.or_false, List.any_map] at own
      · obtain ⟨member, among, separated⟩ := List.any_eq_true.mp own
        exact ⟨member, among, Bool.or_eq_true_iff.mpr (.inl separated)⟩
      · exact nofun
    · obtain ⟨member, among, within⟩ := mem_memberValues.mp inside
      exact ⟨member, among, Bool.or_eq_true_iff.mpr (.inr (isRefused_iff.mpr ⟨value, within, own⟩))⟩
  · rintro ⟨member, among, refused⟩
    rcases Bool.or_eq_true_iff.mp refused with separated | inside
    · refine ⟨.object members, List.mem_cons_self, Bool.or_eq_true_iff.mpr (.inl ?_)⟩
      exact List.any_eq_true.mpr ⟨member.1, List.mem_map_of_mem among, separated⟩
    · obtain ⟨value, within, own⟩ := isRefused_iff.mp inside
      have listed := mem_memberValues.mpr ⟨member, among, within⟩
      exact ⟨value, List.mem_cons_of_mem _ listed, own⟩

/-- A sound document has each key once and no wide number. -/
theorem Sound.keyed {document : Json} (sound : document.Sound) : document.Keyed := by
  intro value among
  have own := sound value among
  cases value with
  | object members => exact own
  | _ => trivial

theorem Sound.hasWide {document : Json} (sound : document.Sound) : document.hasWide = false := by
  rw [hasWide_eq_false]
  intro value among
  have own := sound value among
  cases value with
  | integer n =>
    have range : -0x8000000000000000 ≤ n ∧ n < 0x8000000000000000 := own
    simpa [isWide] using range
  | _ => rfl

end Json

namespace Members

/-- Putting a value under a key leaves the other members and their order. -/
theorem mem_of_mem_put {members : Members} {key : String} {value : Json} {member : String × Json}
    (among : member ∈ members.put key value) : member ∈ members ∨ member = (key, value) := by
  induction members with
  | nil =>
    rw [put, List.mem_singleton] at among
    exact .inr among
  | cons first rest ih =>
    obtain ⟨known, old⟩ := first
    rw [put] at among
    split at among
    · rename_i here
      subst here
      rcases List.mem_cons.mp among with new | later
      · exact .inr new
      · exact .inl (List.mem_cons_of_mem _ later)
    · rcases List.mem_cons.mp among with rfl | later
      · exact .inl List.mem_cons_self
      · exact (ih later).imp_left (List.mem_cons_of_mem _)

/-- The keys stay in their order; a new one comes last. -/
theorem keys_put (members : Members) (key : String) (value : Json) :
    (members.put key value).map Prod.fst =
      if key ∈ members.map Prod.fst then members.map Prod.fst else members.map Prod.fst ++ [key] := by
  induction members with
  | nil => rfl
  | cons first rest ih =>
    obtain ⟨known, old⟩ := first
    rw [put]
    by_cases here : known = key
    · simp [here]
    · rw [if_neg here, List.map_cons, ih]
      simp only [List.map_cons, List.mem_cons, Ne.symm here, false_or]
      split <;> rfl

theorem put_of_not_mem {members : Members} {key : String} (fresh : key ∉ members.map Prod.fst)
    (value : Json) : members.put key value = members ++ [(key, value)] := by
  induction members with
  | nil => rfl
  | cons first rest ih =>
    obtain ⟨known, old⟩ := first
    rw [List.map_cons, List.mem_cons, not_or] at fresh
    rw [put, if_neg (Ne.symm fresh.1), ih fresh.2, List.cons_append]

theorem nodup_keys_put {members : Members} (unique : (members.map Prod.fst).Nodup) (key : String)
    (value : Json) : ((members.put key value).map Prod.fst).Nodup := by
  rw [keys_put]
  split
  · exact unique
  · rename_i fresh
    refine List.nodup_append.mpr ⟨unique, List.nodup_singleton key, ?_⟩
    intro known among other last
    rw [List.mem_singleton.mp last]
    rintro rfl
    exact fresh among

end Members

namespace Json

section Grown

variable {property : Json → Prop} {members : Members}

theorem Throughout.put {key : String} {value : Json}
    (throughout : Throughout property (.object members))
    (own : property (.object (members.put key value))) (new : Throughout property value) :
    Throughout property (.object (members.put key value)) := by
  rw [throughout_object]
  refine ⟨own, ?_⟩
  intro member among
  rcases Members.mem_of_mem_put among with old | rfl
  · exact (throughout_object.mp throughout).2 member old
  · exact new

/-- Entries are strings, so a document takes them without any new kind of value. -/
theorem Throughout.withEntries {texts : List String}
    (throughout : Throughout property (.object members))
    (object : ∀ entries, property (.object (members.put Config.filesKey entries)))
    (array : ∀ items, property (.array items)) (string : ∀ text ∈ texts, property (.string text)) :
    Throughout property (Config.withEntries members texts) := by
  refine throughout.put (object _) ?_
  rw [throughout_array]
  refine ⟨array _, ?_⟩
  intro item listed
  obtain ⟨text, among, rfl⟩ := List.mem_map.mp listed
  exact throughout_alone rfl (string text among)

theorem Sound.put (sound : Sound (.object members)) (key : String) {value : Json}
    (new : value.Sound) : Sound (.object (members.put key value)) :=
  Throughout.put sound (Members.nodup_keys_put sound.self key value) new

theorem Sound.withEntries (sound : Sound (.object members)) (texts : List String) :
    Sound (Config.withEntries members texts) :=
  Throughout.withEntries sound
    (fun entries => Members.nodup_keys_put sound.self Config.filesKey entries)
    (fun _ => trivial) fun _ _ => trivial

theorem FloatFree.withEntries (floatFree : FloatFree (.object members)) (texts : List String) :
    FloatFree (Config.withEntries members texts) :=
  Throughout.withEntries floatFree (fun _ => rfl) (fun _ => rfl) fun _ _ => rfl

theorem hasSeparator_withEntries {texts : List String}
    (plain : hasSeparator (.object members) = false)
    (clean : ∀ text ∈ texts, holdsSeparator text = false) :
    (Config.withEntries members texts).hasSeparator = false := by
  rw [hasSeparator_eq_false] at plain ⊢
  refine plain.withEntries ?_ (fun _ => nofun) ?_
  · intro entries key among
    rw [ownTexts, Members.keys_put] at among
    split at among
    · exact plain.self key among
    · rcases List.mem_append.mp among with old | new
      · exact plain.self key old
      · rw [List.mem_singleton.mp new]
        decide
  · intro text among own here
    rw [List.mem_singleton.mp here]
    exact clean text among

/-- The entries of a document are strings in it. -/
theorem holdsSeparator_of_entries {texts : List String}
    (plain : hasSeparator (.object members) = false)
    (entries : Config.entries? members = some (texts.map .string)) :
    ∀ text ∈ texts, holdsSeparator text = false := by
  intro text among
  rw [hasSeparator_eq_false, throughout_object] at plain
  have listed : Json.string text ∈ texts.map Json.string := List.mem_map_of_mem among
  rw [Config.entries?] at entries
  split at entries
  · rw [← Option.some.inj entries] at listed
    cases listed
  · rename_i items found
    rw [Option.some.inj entries] at found
    obtain ⟨before, after, rfl, _⟩ := List.lookup_eq_some_iff.mp found
    have own := plain.2 _ (List.mem_append_right before List.mem_cons_self)
    exact ((throughout_array.mp own).2 _ listed).self text List.mem_cons_self
  · cases entries

end Grown

end Json

end StrictFiles
