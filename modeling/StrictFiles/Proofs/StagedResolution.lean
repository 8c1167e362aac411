import StrictFiles.Proofs.PathSpelling

/-!
Resolving path texts in stages. A text that is seen from a base leads where the two texts, joined, lead;
what it leads to has one spelling, which is read as the same path from then on.
-/

namespace StrictFiles

namespace Path

/-- A path text seen from a base: a rooted one stands alone, any other is written behind the base, with
a slash between unless the base is empty or ends with one. -/
def joinText (base text : Bytes) : Bytes :=
  if isRooted text then text
  else if base = [] ∨ base.getLast? = some slash then base ++ text
  else base ++ slash :: text

theorem joinText_rooted {text : Bytes} (rooted : isRooted text = true) (base : Bytes) :
    joinText base text = text :=
  if_pos rooted

/-- A joined text says what the base says and then what the text says. -/
theorem segments_joinText {text : Bytes} (unrooted : isRooted text = false) (base : Bytes) :
    segments (joinText base text) = segments base ++ segments text := by
  rw [joinText, if_neg (by simp [unrooted])]
  by_cases empty : base = []
  · subst empty
    rfl
  by_cases ending : base.getLast? = some slash
  · obtain ⟨front, rfl⟩ := List.getLast?_eq_some_iff.mp ending
    have nothing : segments [] = [] := rfl
    rw [if_pos (.inr ending), List.append_assoc, List.singleton_append, segments_append,
      segments_append, nothing, List.append_nil]
  · rw [if_neg (by simp [empty, ending]), segments_append]

theorem isRooted_joinText (base text : Bytes) :
    isRooted (joinText base text) = (isRooted text || isRooted base) := by
  rw [joinText]
  cases rooted : isRooted text with
  | true => rw [if_pos rfl, rooted, Bool.true_or]
  | false =>
    rw [if_neg Bool.false_ne_true, Bool.false_or]
    cases base with
    | nil => exact rooted
    | cons b rest => split <;> rfl

/-- The joined texts lead where the second leads from the end of the first. -/
theorem resolve_joinText (base text : Bytes) (start : Path) :
    resolve (joinText base text) start = resolve text (resolve base start) := by
  cases rooted : isRooted text with
  | true => rw [joinText_rooted rooted, resolve, resolve, rooted, if_pos rfl, if_pos rfl]
  | false =>
    have first : isRooted (joinText base text) = isRooted base := by
      rw [isRooted_joinText, rooted, Bool.false_or]
    rw [resolve, first, segments_joinText rooted, List.foldl_append, resolve, resolve, rooted,
      if_neg Bool.false_ne_true]

theorem ofBytes_joinText (base text : Bytes) :
    ofBytes (joinText base text) = resolve text (ofBytes base) :=
  resolve_joinText base text here

theorem foldl_push_climbs_relative (start climbs : Nat) :
    (List.replicate climbs Segment.up).foldl push (.relative start []) =
      .relative (start + climbs) [] := by
  induction climbs generalizing start with
  | zero => rfl
  | succ climbs ih =>
    have next : push (.relative start []) .up = .relative (start + 1) [] := rfl
    rw [List.replicate_succ, List.foldl_cons, next, ih]
    congr 1
    omega

/-- A path is what its spelling leads to. -/
theorem ofBytes_toBytes (path : Path) : ofBytes path.toBytes = path := by
  cases path with
  | absolute names => exact resolve_absolute rfl _
  | relative climbs names =>
    have unrooted : (Path.relative climbs names).isAbsolute = false := rfl
    rw [ofBytes, resolve_toBytes, unrooted, if_neg Bool.false_ne_true, way, List.foldl_append, here,
      foldl_push_climbs_relative, foldl_push_names_relative, Nat.zero_add, List.nil_append]

/-- The spellings that cannot be shorter: plain names between single slashes, behind the root or behind
some climbs. -/
def IsCanonical (rooted : Bool) (spelling : Bytes) : Prop :=
  ∃ (climbs : Nat) (names : List Bytes),
    (∀ name ∈ names, name ≠ [] ∧ name ≠ [46] ∧ name ≠ [46, 46] ∧ slash ∉ name) ∧
    spelling = if rooted then slash :: joinSlashes names
      else joinSlashes (List.replicate climbs [46, 46] ++ names)

/-- Texts are the bytes of names when, and only when, each of them is plain. -/
theorem exists_names_iff {texts : List Bytes} :
    (∃ names : List Name, names.map Name.bytes = texts) ↔
      ∀ text ∈ texts, text ≠ [] ∧ text ≠ [46] ∧ text ≠ [46, 46] ∧ slash ∉ text := by
  constructor
  · rintro ⟨names, rfl⟩ text among
    obtain ⟨name, _, rfl⟩ := List.mem_map.mp among
    exact name.plain
  · intro plain
    refine ⟨texts.attach.map fun text => ⟨text.1, plain _ text.2⟩, ?_⟩
    rw [List.map_map]
    exact List.attach_map_subtype_val texts

theorem isCanonical_toBytes (path : Path) : IsCanonical path.isAbsolute path.toBytes := by
  cases path with
  | absolute names => exact ⟨0, names.map Name.bytes, exists_names_iff.mp ⟨names, rfl⟩, rfl⟩
  | relative climbs names =>
    exact ⟨climbs, names.map Name.bytes, exists_names_iff.mp ⟨names, rfl⟩, rfl⟩

/-- A canonical spelling is the spelling of a path, and so of what it leads to. -/
theorem IsCanonical.toBytes_ofBytes {rooted : Bool} {spelling : Bytes}
    (canonical : IsCanonical rooted spelling) : (ofBytes spelling).toBytes = spelling := by
  obtain ⟨climbs, texts, plain, rfl⟩ := canonical
  obtain ⟨names, rfl⟩ := exists_names_iff.mpr plain
  cases rooted with
  | true => exact congrArg toBytes (ofBytes_toBytes (.absolute names))
  | false => exact congrArg toBytes (ofBytes_toBytes (.relative climbs names))

/-- The path above an absolute path is one climb away; nothing is above the root. -/
theorem parent_absolute (names : List Name) :
    (Path.absolute names).parent = resolve [46, 46] (.absolute names) :=
  rfl

/-- All texts are resolved in stages: what a text leads to from the end of another is what the two, joined,
lead to, and a base counts only for the path it is. What a text leads to has a canonical spelling, rooted
when one of the texts is, and the canonical spellings are the ones that are left as they are. From an
absolute path `..` leads to its parent. -/
theorem resolve_in_stages (base text further : Bytes) :
    resolve further (resolve text (ofBytes base)) = resolve (joinText text further) (ofBytes base) ∧
    resolve text (ofBytes base) = ofBytes (joinText base text) ∧
    IsCanonical (isRooted text || isRooted base) (resolve text (ofBytes base)).toBytes ∧
    ofBytes (resolve text (ofBytes base)).toBytes = resolve text (ofBytes base) ∧
    ((ofBytes text).toBytes = text ↔ ∃ rooted, IsCanonical rooted text) ∧
    ∀ names, (Path.absolute names).parent = resolve [46, 46] (.absolute names) := by
  have absolute : (resolve text (ofBytes base)).isAbsolute = (isRooted text || isRooted base) := by
    rw [isAbsolute_resolve, ofBytes, isAbsolute_resolve, here, isAbsolute, Bool.or_false]
  refine ⟨(resolve_joinText text further _).symm, (ofBytes_joinText base text).symm, ?_,
    ofBytes_toBytes _, ?_, parent_absolute⟩
  · rw [← absolute]
    exact isCanonical_toBytes _
  · constructor
    · intro same
      have canonical := isCanonical_toBytes (ofBytes text)
      rw [same] at canonical
      exact ⟨_, canonical⟩
    · rintro ⟨_, canonical⟩
      exact canonical.toBytes_ofBytes

end Path

end StrictFiles
