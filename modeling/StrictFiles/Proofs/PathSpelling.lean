import StrictFiles.Path.Relative
import StrictFiles.Proofs.Utf8RoundTrip

/-!
A path is found again from its spelling, and a file from the way that leads to it.
-/

namespace StrictFiles

/-- How a segment is spelled. -/
def Segment.bytes : Segment → Bytes
  | .up => [46, 46]
  | .name n => n.bytes

theorem Segment.slash_not_mem (segment : Segment) : slash ∉ segment.bytes := by
  cases segment with
  | up => decide
  | name n => exact n.plain.2.2.2

theorem Segment.bytes_ne_nil (segment : Segment) : segment.bytes ≠ [] := by
  cases segment with
  | up => decide
  | name n => exact n.plain.1

theorem Segment.ofBytes?_bytes (segment : Segment) : Segment.ofBytes? segment.bytes = some segment := by
  cases segment with
  | up => rfl
  | name n =>
    rw [Segment.ofBytes?, Segment.bytes, if_neg n.plain.2.2.1, Name.ofBytes?_bytes]
    rfl

theorem splitSlashes_plain {piece : Bytes} (plain : slash ∉ piece) : splitSlashes piece = [piece] := by
  induction piece with
  | nil => rfl
  | cons b rest ih =>
    rw [List.mem_cons, not_or] at plain
    rw [splitSlashes, if_neg (Ne.symm plain.1), ih plain.2]

theorem splitSlashes_ne_nil (text : Bytes) : splitSlashes text ≠ [] := by
  induction text with
  | nil => simp [splitSlashes]
  | cons b rest ih =>
    rw [splitSlashes]
    split
    · exact List.cons_ne_nil _ _
    · obtain ⟨piece, pieces, known⟩ := List.exists_cons_of_ne_nil ih
      rw [known]
      exact List.cons_ne_nil _ _

/-- A slash between two texts separates their pieces. -/
theorem splitSlashes_append (before after : Bytes) :
    splitSlashes (before ++ slash :: after) = splitSlashes before ++ splitSlashes after := by
  induction before with
  | nil => simp [splitSlashes]
  | cons b rest ih =>
    rw [List.cons_append, splitSlashes, splitSlashes, ih]
    by_cases here : b = slash
    · rw [if_pos here, if_pos here, List.cons_append]
    · obtain ⟨piece, pieces, known⟩ := List.exists_cons_of_ne_nil (splitSlashes_ne_nil rest)
      rw [if_neg here, if_neg here, known]
      rfl

theorem segments_append (before after : Bytes) :
    segments (before ++ slash :: after) = segments before ++ segments after := by
  rw [segments, splitSlashes_append, List.filterMap_append, segments, segments]

theorem segments_slash (text : Bytes) : segments (slash :: text) = segments text :=
  segments_append [] text

/-- What is spelled without slashes is read again from its spellings with a slash between any two. -/
theorem read_joinSlashes {α β : Type} {read : Bytes → Option β} {spell : α → Bytes} {value : α → β}
    (nothing : read [] = none) (plain : ∀ a, slash ∉ spell a)
    (known : ∀ a, read (spell a) = some (value a)) (way : List α) :
    (splitSlashes (Path.joinSlashes (way.map spell))).filterMap read = way.map value := by
  have alone (a : α) : (splitSlashes (spell a)).filterMap read = [value a] := by
    rw [splitSlashes_plain (plain a), List.filterMap_cons_some (known a), List.filterMap_nil]
  induction way with
  | nil => exact List.filterMap_cons_none nothing
  | cons first rest ih =>
    cases rest with
    | nil => exact alone first
    | cons second rest =>
      rw [List.map_cons, List.map_cons, Path.joinSlashes, ← List.map_cons, splitSlashes_append,
        List.filterMap_append, alone, ih, List.singleton_append, ← List.map_cons]
      exact List.cons_ne_nil _ _

/-- Segments are read off their spellings, one between any two slashes. -/
theorem segments_joinSlashes (way : List Segment) :
    segments (Path.joinSlashes (way.map Segment.bytes)) = way := by
  have read : segments (Path.joinSlashes (way.map Segment.bytes)) = way.map id :=
    read_joinSlashes rfl Segment.slash_not_mem Segment.ofBytes?_bytes way
  rwa [List.map_id] at read

namespace Path

/-- The segments that a path consists of. -/
def way : Path → List Segment
  | .absolute names => names.map .name
  | .relative climbs names => List.replicate climbs .up ++ names.map .name

theorem toBytes_absolute (names : List Name) :
    (Path.absolute names).toBytes = slash :: joinSlashes ((Path.absolute names).way.map Segment.bytes) := by
  rw [toBytes, way, List.map_map]
  rfl

theorem toBytes_relative (climbs : Nat) (names : List Name) :
    (Path.relative climbs names).toBytes =
      joinSlashes ((Path.relative climbs names).way.map Segment.bytes) := by
  rw [toBytes, way, List.map_append, List.map_replicate, List.map_map]
  rfl

theorem segments_toBytes (path : Path) : segments path.toBytes = path.way := by
  cases path with
  | absolute names => rw [toBytes_absolute, segments_slash, segments_joinSlashes]
  | relative climbs names => rw [toBytes_relative, segments_joinSlashes]

theorem isRooted_joinSlashes (way : List Segment) :
    isRooted (joinSlashes (way.map Segment.bytes)) = false := by
  cases way with
  | nil => rfl
  | cons first rest =>
    obtain ⟨b, tail, spelt⟩ := List.exists_cons_of_ne_nil first.bytes_ne_nil
    have plain := first.slash_not_mem
    rw [spelt, List.mem_cons, not_or] at plain
    cases rest with
    | nil => simp [joinSlashes, spelt, isRooted, Ne.symm plain.1]
    | cons second rest => simp [joinSlashes, spelt, isRooted, Ne.symm plain.1]

theorem isRooted_toBytes (path : Path) : isRooted path.toBytes = path.isAbsolute := by
  cases path with
  | absolute names => rfl
  | relative climbs names =>
    rw [toBytes_relative, isRooted_joinSlashes]
    rfl

theorem resolve_toBytes (path base : Path) :
    resolve path.toBytes base = path.way.foldl push (if path.isAbsolute then root else base) := by
  rw [resolve, segments_toBytes, isRooted_toBytes]

/-- A segment does not lead out of the tree or into it. -/
theorem isAbsolute_push (path : Path) (segment : Segment) :
    (path.push segment).isAbsolute = path.isAbsolute := by
  cases path with
  | absolute names => cases segment <;> rfl
  | relative climbs names => cases segment <;> cases names <;> rfl

theorem isAbsolute_foldl_push (path : Path) (way : List Segment) :
    (way.foldl push path).isAbsolute = path.isAbsolute := by
  induction way generalizing path with
  | nil => rfl
  | cons segment way ih => rw [List.foldl_cons, ih, isAbsolute_push]

theorem isAbsolute_resolve (text : Bytes) (base : Path) :
    (resolve text base).isAbsolute = (isRooted text || base.isAbsolute) := by
  rw [resolve, isAbsolute_foldl_push]
  cases isRooted text <;> rfl

theorem isAbsolute_foldl_child (path : Path) (way : List Name) :
    (way.foldl child path).isAbsolute = path.isAbsolute := by
  induction way generalizing path with
  | nil => rfl
  | cons name way ih => rw [List.foldl_cons, ih, child, isAbsolute_push]

theorem foldl_push_names (start names : List Name) :
    (names.map Segment.name).foldl push (.absolute start) = .absolute (start ++ names) := by
  induction names generalizing start with
  | nil => simp
  | cons n names ih => rw [List.map_cons, List.foldl_cons, push, ih, List.append_assoc]; rfl

theorem foldl_push_climbs (start : List Name) (climbs : Nat) :
    (List.replicate climbs Segment.up).foldl push (.absolute start) =
      .absolute (start.take (start.length - climbs)) := by
  induction climbs generalizing start with
  | zero => simp
  | succ climbs ih =>
    rw [List.replicate_succ, List.foldl_cons, push, ih, List.dropLast_eq_take, List.take_take,
      List.length_take]
    congr 2
    omega

/-- An absolute path is the same from everywhere. -/
theorem resolve_absolute {path : Path} (absolute : path.isAbsolute) (base : Path) :
    resolve path.toBytes base = path := by
  cases path with
  | absolute names => rw [resolve_toBytes, if_pos absolute, way, root, foldl_push_names, List.nil_append]
  | relative climbs names => simp [isAbsolute] at absolute

/-- What two lists share is the longest start that is the same in both. -/
theorem le_sharedLength_iff {base target : List Part} {length : Nat} :
    length ≤ sharedLength base target ↔
      length ≤ base.length ∧ length ≤ target.length ∧ base.take length = target.take length := by
  induction base generalizing target length with
  | nil => cases target <;> simp +contextual [sharedLength]
  | cons p base ih =>
    cases target with
    | nil => simp +contextual [sharedLength]
    | cons q target =>
      cases length with
      | zero => simp
      | succ length =>
        rw [sharedLength]
        by_cases same : p = q
        · rw [if_pos same, Nat.succ_le_succ_iff, ih]
          simp [same]
        · rw [if_neg same]
          simp [same]

/-- The number of names at the start that two absolute paths share. -/
def sharedNames (base target : List Name) : Nat :=
  sharedLength (base.map .name) (target.map .name)

theorem le_sharedNames_iff {base target : List Name} {length : Nat} :
    length ≤ sharedNames base target ↔
      length ≤ base.length ∧ length ≤ target.length ∧ base.take length = target.take length := by
  rw [sharedNames, le_sharedLength_iff, List.length_map, List.length_map, ← List.map_take,
    ← List.map_take, List.map_inj_right fun _ _ => Part.name.inj]

/-- A relative path never starts at the root, so it shares nothing with an absolute one. -/
theorem sharedLength_relative (climbs : Nat) (names below : List Name) :
    sharedLength (Path.relative climbs names).parts (Path.absolute below).parts = 0 := by
  cases climbs with
  | succ climbs => simp [parts, List.replicate_succ, sharedLength]
  | zero => cases names <;> simp [parts, sharedLength]

theorem foldl_append_names (start : Path) (names : List Name) :
    (names.map Part.name).foldl append start = (names.map Segment.name).foldl push start := by
  induction names generalizing start with
  | nil => rfl
  | cons n names ih => rw [List.map_cons, List.map_cons, List.foldl_cons, List.foldl_cons, ih]; rfl

theorem foldl_push_names_relative (climbs : Nat) (start names : List Name) :
    (names.map Segment.name).foldl push (.relative climbs start) =
      .relative climbs (start ++ names) := by
  induction names generalizing start with
  | nil => simp
  | cons n names ih => rw [List.map_cons, List.foldl_cons, push, ih, List.append_assoc]; rfl

theorem relativeTo_relative (below names : List Name) (climbs : Nat) :
    (Path.absolute below).relativeTo (.relative climbs names) = .absolute below := by
  rw [relativeTo, sharedLength_relative, List.drop_zero, parts, List.foldl_cons, append,
    foldl_append_names, root, foldl_push_names, List.nil_append]

/-- Between absolute paths the way climbs to the last shared directory and goes down from there. -/
theorem relativeTo_absolute (target base : List Name) :
    (Path.absolute target).relativeTo (.absolute base) =
      .relative (base.length - sharedNames base target) (target.drop (sharedNames base target)) := by
  rw [relativeTo, parts, parts, sharedLength, if_pos rfl, List.drop_succ_cons, ← List.map_drop,
    foldl_append_names, foldl_push_names_relative, List.nil_append, List.length_cons,
    List.length_map, Nat.add_sub_add_right, sharedNames]

/-- The way from a directory to a file leads to that file. -/
theorem resolve_relativeTo {target : Path} (absolute : target.isAbsolute) (base : Path) :
    resolve (target.relativeTo base).toBytes base = target := by
  cases target with
  | relative climbs names => simp [isAbsolute] at absolute
  | absolute below =>
    cases base with
    | relative climbs names =>
      rw [relativeTo_relative]
      exact resolve_absolute rfl _
    | absolute above =>
      obtain ⟨within, _, same⟩ := le_sharedNames_iff.mp (Nat.le_refl (sharedNames above below))
      rw [relativeTo_absolute, resolve_toBytes, if_neg (by simp [isAbsolute]), way,
        List.foldl_append, foldl_push_climbs, foldl_push_names, Nat.sub_sub_self within, same,
        List.take_append_drop]

/-- The text of a path that is one says no more and no less than its bytes. -/
theorem ofString_text? {path : Path} {text : String} (spelt : path.text? = some text) :
    Utf8.ofString text = path.toBytes := by
  rw [text?, Option.map_eq_some_iff] at spelt
  obtain ⟨chars, read, rfl⟩ := spelt
  rw [Utf8.ofString, String.toList_ofList, Utf8.encode_of_decode? read]

end Path

end StrictFiles
