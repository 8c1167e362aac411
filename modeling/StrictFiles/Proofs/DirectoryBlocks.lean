import StrictFiles.Proofs.DirectoriesAbove
import StrictFiles.Proofs.PreparedRun
import StrictFiles.Proofs.SortedPaths

/-!
The order of paths keeps directories together. Paths are compared name by name, so whatever comes between
two paths of a directory is of that directory, and the directory comes before all of them. The order of
the spellings is another one: there the slash behind the name of a directory is a byte like all others,
and the name of a sibling may go on with a smaller one.
-/

namespace StrictFiles

section Lists

variable {α : Type}

/-- Members of an ascending list stand next to each other when nothing else can come between them. -/
theorem exists_block {le : α → α → Prop} {inside : α → Prop} {items : List α}
    (between : ∀ a b c, le a b → le b c → inside a → inside c → inside b)
    (ascending : items.Pairwise le) :
    ∃ front block back, items = front ++ block ++ back ∧ (∀ item ∈ block, inside item) ∧
      ∀ item ∈ front ++ back, ¬inside item := by
  induction ascending with
  | nil => exact ⟨[], [], [], rfl, by simp, by simp⟩
  | @cons first items least ascending ih =>
    obtain ⟨front, block, back, rfl, within, outside⟩ := ih
    by_cases here : inside first
    · cases block with
      | nil =>
        rw [List.append_nil]
        exact ⟨[], [first], front ++ back, rfl, by simpa using here, outside⟩
      | cons second block =>
        -- The first one and the second one are inside, so nothing stands between them.
        have next : front = [] := by
          refine List.eq_nil_iff_forall_not_mem.mpr fun item member => ?_
          have later : le item second := by
            rw [List.append_assoc, List.pairwise_append] at ascending
            exact ascending.2.2 item member second (by simp)
          exact outside item (List.mem_append_left back member)
            (between first item second (least item (by simp [member])) later here
              (within second List.mem_cons_self))
        subst next
        exact ⟨[], first :: second :: block, back, rfl, List.forall_mem_cons.mpr ⟨here, within⟩, outside⟩
    · exact ⟨first :: front, block, back, rfl, within, List.forall_mem_cons.mpr ⟨here, outside⟩⟩

/-- Between two lists with the same start come only lists with that start. -/
theorem prefix_of_between [LinearOrder α] {start low middle high : List α}
    (first : start <+: low) (last : start <+: high) (above : low ≤ middle) (below : middle ≤ high) :
    start <+: middle := by
  induction start generalizing low middle high with
  | nil => exact List.nil_prefix
  | cons head start ih =>
    obtain ⟨low, rfl⟩ := first
    obtain ⟨high, rfl⟩ := last
    rw [← not_lt] at above below
    cases middle with
    | nil => exact (above (List.nil_lt_cons head (start ++ low))).elim
    | cons other middle =>
      rw [List.cons_append, List.cons_lt_cons_iff, not_or] at above below
      have same : head = other := le_antisymm (not_lt.mp above.1) (not_lt.mp below.1)
      subst same
      refine List.cons_prefix_cons.mpr ⟨rfl, ih (List.prefix_append start low)
        (List.prefix_append start high) ?_ ?_⟩
      · exact not_lt.mp fun less => above.2 ⟨rfl, less⟩
      · exact not_lt.mp fun less => below.2 ⟨rfl, less⟩

theorem append_lt_append_left [LT α] [Std.Irrefl fun a b : α => a < b] (start first second : List α) :
    start ++ first < start ++ second ↔ first < second := by
  induction start with
  | nil => rfl
  | cons head start ih =>
    rw [List.cons_append, List.cons_append, List.cons_lt_cons_iff, ih]
    exact ⟨fun less => (less.resolve_left (Std.Irrefl.irrefl head)).2, fun less => .inr ⟨rfl, less⟩⟩

/-- Two lists part at some place, unless one of them starts the other. -/
theorem prefix_or_parted [DecidableEq α] (first second : List α) :
    first <+: second ∨ second <+: first ∨
      ∃ shared head other rest otherRest, head ≠ other ∧ first = shared ++ head :: rest ∧
        second = shared ++ other :: otherRest := by
  induction first generalizing second with
  | nil => exact .inl List.nil_prefix
  | cons head first ih =>
    cases second with
    | nil => exact .inr (.inl List.nil_prefix)
    | cons other second =>
      by_cases same : head = other
      · subst same
        rcases ih second with starts | starts | ⟨shared, h, o, r, s, apart, rfl, rfl⟩
        · exact .inl (List.cons_prefix_cons.mpr ⟨rfl, starts⟩)
        · exact .inr (.inl (List.cons_prefix_cons.mpr ⟨rfl, starts⟩))
        · exact .inr (.inr ⟨head :: shared, h, o, r, s, apart, rfl, rfl⟩)
      · exact .inr (.inr ⟨[], head, other, first, second, same, rfl, rfl⟩)

end Lists

/-- Another name goes on behind this one, with a byte that is smaller than the slash. -/
def Name.ContinuesBelowSlash (name other : Name) : Prop :=
  ∃ byte rest, other.bytes = name.bytes ++ byte :: rest ∧ byte < slash

namespace Path

/-- A list of paths in the order that sorting gives. -/
def Ascending (paths : List Path) : Prop :=
  paths.Pairwise fun a b => le a b = true

/-- In a list of paths, those at or below a directory stand next to each other, and the directory stands
in front when it is one of the paths. -/
def KeepsTogether (directory : Path) (paths : List Path) : Prop :=
  ∃ front block back, paths = front ++ block ++ back ∧
    (∀ path ∈ block, directory.IsAtOrAbove path) ∧
    (∀ path ∈ front ++ back, ¬directory.IsAtOrAbove path) ∧
    (directory ∈ paths → block.head? = some directory)

section Order

variable {directory path : Path}

theorem key_absolute (names : List Name) :
    (Path.absolute names).key = [0] :: names.map fun name => (Part.name name).key := by
  rw [key, parts, List.map_cons, List.map_map]
  rfl

/-- Of absolute paths, a directory is at or above those whose keys start with its own. -/
theorem isAtOrAbove_iff_key (rooted : directory.isAbsolute = true) (absolute : path.isAbsolute = true) :
    directory.IsAtOrAbove path ↔ directory.key <+: path.key := by
  cases directory with
  | relative climbs names => cases rooted
  | absolute above =>
    cases path with
    | relative climbs names => cases absolute
    | absolute names =>
      have injective : Function.Injective fun name => (Part.name name).key :=
        fun _ _ same => Part.name.inj (Part.key_injective same)
      rw [key_absolute, key_absolute, List.cons_prefix_cons, and_iff_right rfl,
        List.prefix_map_iff_of_injective injective]
      constructor
      · rintro ⟨_, same, starts⟩
        cases same
        exact starts
      · exact fun starts => ⟨above, rfl, starts⟩

/-- A directory comes before all that is below it. -/
theorem IsAtOrAbove.le (above : directory.IsAtOrAbove path) (absolute : path.isAbsolute = true) :
    le directory path = true := by
  have rooted : directory.isAbsolute = true := by
    obtain ⟨_, rfl, _⟩ := above
    rfl
  obtain ⟨rest, starts⟩ := (isAtOrAbove_iff_key rooted absolute).mp above
  rw [le_iff, ← starts, ← not_lt]
  exact List.le_append_left

/-- A member of an ascending list that is before all others, or level with them, is the first one. -/
theorem head?_of_least {block : List Path} (ascending : Ascending block) (listed : directory ∈ block)
    (least : ∀ path ∈ block, le directory path = true) : block.head? = some directory := by
  cases block with
  | nil => cases listed
  | cons first rest =>
    have notBefore : le directory first = true := least first List.mem_cons_self
    have notAfter : le first directory = true := by
      rcases List.mem_cons.mp listed with same | later
      · exact same ▸ notBefore
      · exact (List.pairwise_cons.mp ascending).1 directory later
    rw [List.head?_cons, le_antisymm first directory notAfter notBefore]

/-- In an ascending list every directory has its paths together. -/
theorem keepsTogether_of_ascending {paths : List Path} (rooted : directory.isAbsolute = true)
    (absolute : ∀ path ∈ paths, path.isAbsolute = true)
    (ascending : Ascending paths) : directory.KeepsTogether paths := by
  have between (a b c : Path) (first : le a b = true) (second : le b c = true)
      (low : directory.key <+: a.key) (high : directory.key <+: c.key) : directory.key <+: b.key :=
    prefix_of_between low high (le_iff.mp first) (le_iff.mp second)
  obtain ⟨front, block, back, rfl, within, outside⟩ := exists_block between ascending
  have above {path : Path} (member : path ∈ front ++ block ++ back) :=
    isAtOrAbove_iff_key rooted (absolute path member)
  have inside : ∀ path ∈ block, directory.IsAtOrAbove path := fun path member =>
    (above (by simp [member])).mpr (within path member)
  refine ⟨front, block, back, rfl, inside, ?_, ?_⟩
  · intro path member found
    have there : path ∈ front ++ block ++ back := by
      rcases List.mem_append.mp member with before | after
      · simp [before]
      · simp [after]
    exact outside path member ((above there).mp found)
  · intro listed
    have inBlock : directory ∈ block := by
      have apart : directory ∉ front ++ back := fun member =>
        outside directory member (List.prefix_refl directory.key)
      simp only [List.mem_append, not_or] at apart listed
      exact (listed.resolve_right apart.2).resolve_left apart.1
    have least : ∀ path ∈ block, le directory path = true := fun path member =>
      (inside path member).le (absolute path (by simp [member]))
    exact head?_of_least (ascending.sublist (List.infix_append front block back).sublist) inBlock least

end Order

section Spelling

/-- The names as they are spelled below a directory, a slash in front of each. -/
def behindSlashes (names : List Name) : Bytes :=
  names.flatMap fun name => slash :: name.bytes

theorem toBytes_eq_behindSlashes {names : List Name} (some : names ≠ []) :
    (Path.absolute names).toBytes = behindSlashes names := by
  rw [toBytes]
  induction names with
  | nil => exact (some rfl).elim
  | cons name names ih =>
    rw [behindSlashes, List.flatMap_cons]
    cases names with
    | nil => exact (List.append_nil _).symm
    | cons second names =>
      have rest := ih (List.cons_ne_nil second names)
      rw [behindSlashes] at rest
      rw [← rest]
      rfl

theorem toBytes_parted (shared rest : List Name) (name : Name) :
    (Path.absolute (shared ++ name :: rest)).toBytes =
      (behindSlashes shared ++ [slash]) ++ (name.bytes ++ behindSlashes rest) := by
  rw [toBytes_eq_behindSlashes (by simp), behindSlashes, List.flatMap_append, List.flatMap_cons]
  simp [behindSlashes]

theorem map_toNat_lt {first second : Bytes} :
    first.map UInt8.toNat < second.map UInt8.toNat ↔ first < second := by
  induction first generalizing second with
  | nil => cases second <;> simp
  | cons byte first ih =>
    cases second with
    | nil => simp
    | cons other second =>
      simp only [List.map_cons, List.cons_lt_cons_iff, ih, UInt8.lt_iff_toNat_lt, UInt8.toNat_inj]

/-- Where two paths part, their names decide, by their bytes. -/
theorem before_parted {shared rest otherRest : List Name} {name other : Name} (apart : name ≠ other) :
    (Path.absolute (shared ++ name :: rest)).Before (.absolute (shared ++ other :: otherRest)) ↔
      name.bytes < other.bytes := by
  have keys : (Part.name name).key ≠ (Part.name other).key :=
    fun same => apart (Part.name.inj (Part.key_injective same))
  rw [Before, key_absolute, key_absolute, List.map_append, List.map_append, ← List.cons_append,
    ← List.cons_append, append_lt_append_left, List.map_cons, List.map_cons, List.cons_lt_cons_iff,
    or_iff_left (fun same => keys same.1), Part.key, Part.key, List.cons_lt_cons_iff,
    or_iff_right (Nat.lt_irrefl 2), and_iff_right rfl, map_toNat_lt]

/-- What stands behind two texts turns their order around just when the second one starts with the first
and goes on with bytes that come before what stands behind the first. -/
theorem lt_and_append_lt {first second behind otherBehind : Bytes} :
    first < second ∧ second ++ otherBehind < first ++ behind ↔
      ∃ byte rest, second = first ++ byte :: rest ∧ byte :: rest ++ otherBehind < behind := by
  induction first generalizing second with
  | nil =>
    cases second with
    | nil => simp
    | cons byte second => simp
  | cons head first ih =>
    cases second with
    | nil => simp
    | cons byte second =>
      simp only [List.cons_append, List.cons_lt_cons_iff, List.cons.injEq]
      by_cases same : head = byte
      · subst same
        simpa [UInt8.lt_irrefl] using ih
      · refine iff_of_false ?_ fun ⟨_, _, ⟨begins, _⟩, _⟩ => same begins.symm
        rintro ⟨less | ⟨begins, _⟩, more | ⟨begins, _⟩⟩
        · exact UInt8.lt_asymm less more
        · exact same begins.symm
        · exact same begins
        · exact same begins.symm

/-- A name that comes before another one is spelled after it, with all that stands behind the two, just
when there is something below it and the other one goes on with a byte smaller than the slash. -/
theorem continuesBelowSlash_iff {name other : Name} {rest otherRest : List Name} :
    name.bytes < other.bytes ∧
        other.bytes ++ behindSlashes otherRest < name.bytes ++ behindSlashes rest ↔
      name.ContinuesBelowSlash other ∧ rest ≠ [] := by
  rw [lt_and_append_lt]
  cases rest with
  | nil => simp [behindSlashes]
  | cons next rest =>
    have behind : behindSlashes (next :: rest) = slash :: (next.bytes ++ behindSlashes rest) := rfl
    rw [behind, and_iff_left (List.cons_ne_nil next rest), Name.ContinuesBelowSlash]
    refine exists_congr fun byte => exists_congr fun more => and_congr_right fun goesOn => ?_
    have plain : byte ≠ slash := by
      rintro rfl
      exact other.plain.2.2.2 (by simp [goesOn])
    rw [List.cons_append, List.cons_lt_cons_iff]
    exact or_iff_left fun same => plain same.1

/-- The order of two paths is not that of their spellings just when one is inside a directory, and the
other one is a sibling of the directory, or below one, with a name that goes on with a smaller byte. -/
theorem before_and_spelled_after {path other : Path} (absolute : path.isAbsolute = true)
    (otherAbsolute : other.isAbsolute = true) :
    path.Before other ∧ other.toBytes < path.toBytes ↔
      ∃ (directory : Path) (name sibling : Name), name.ContinuesBelowSlash sibling ∧
        (directory.child name).IsAtOrAbove path ∧ path ≠ directory.child name ∧
        (directory.child sibling).IsAtOrAbove other := by
  cases path with
  | relative climbs names => cases absolute
  | absolute names =>
    cases other with
    | relative climbs others => cases otherAbsolute
    | absolute others =>
      have nonempty (shared rest : List Name) (name : Name) :
          Path.absolute (shared ++ name :: rest) ≠ (Path.absolute shared).child name ↔ rest ≠ [] := by
        rw [child, push, ne_eq, Path.absolute.injEq, List.append_cancel_left_eq, List.cons.injEq,
          and_iff_right rfl]
      constructor
      · rintro ⟨before, spelled⟩
        rcases prefix_or_parted names others with
          ⟨way, rfl⟩ | starts | ⟨shared, name, sibling, rest, otherRest, apart, rfl, rfl⟩
        · have starts := toBytes_prefix names way
          exact (List.not_lt.mpr starts.le spelled).elim
        · have above : (Path.absolute others).IsAtOrAbove (.absolute names) := ⟨others, rfl, starts⟩
          exact (lt_irrefl _ (before.trans_le (le_iff.mp (above.le rfl)))).elim
        · rw [toBytes_parted, toBytes_parted, append_lt_append_left] at spelled
          obtain ⟨goesOn, inside⟩ :=
            continuesBelowSlash_iff.mp ⟨(before_parted apart).mp before, spelled⟩
          exact ⟨.absolute shared, name, sibling, goesOn, isAtOrAbove_child.mpr ⟨shared, rest, rfl, rfl⟩,
            (nonempty shared rest name).mpr inside,
            isAtOrAbove_child.mpr ⟨shared, otherRest, rfl, rfl⟩⟩
      · rintro ⟨directory, name, sibling, goesOn, above, inside, otherAbove⟩
        obtain ⟨shared, rest, rfl, rfl⟩ := isAtOrAbove_child.mp above
        obtain ⟨_, otherRest, same, rfl⟩ := isAtOrAbove_child.mp otherAbove
        cases same
        obtain ⟨less, spelled⟩ := continuesBelowSlash_iff.mpr
          ⟨goesOn, (nonempty shared rest name).mp inside⟩
        have apart : name ≠ sibling := by
          rintro rfl
          exact List.lt_irrefl _ less
        rw [toBytes_parted, toBytes_parted, append_lt_append_left]
        exact ⟨(before_parted apart).mpr less, spelled⟩

end Spelling

/-- A list is sorted in one way only, since no two paths are level. -/
theorem eq_sort_iff {paths sorted : List Path} :
    sorted = sort paths ↔ sorted.Perm paths ∧ Ascending sorted := by
  have isPerm : (sort paths).Perm paths := List.mergeSort_perm paths le
  constructor
  · rintro rfl
    exact ⟨isPerm, sort_ascending paths⟩
  · rintro ⟨perm, ascending⟩
    exact (perm.trans isPerm.symm).eq_of_pairwise (fun a b _ _ => le_antisymm a b) ascending
      (sort_ascending paths)

theorem ascending_of_discover {tree : FileTree} {root : Path} {extensions : List String}
    {files : List Path} (found : discover tree root extensions = .ok files) : Ascending files := by
  obtain ⟨ways, rfl⟩ := exists_ways_of_discover found
  exact sort_ascending _

/-- The order in which files are found is a total one, in which only a path itself is level with it. In
every ascending list of absolute paths each directory has its paths together, with itself in front. It is
not the order of the spellings: these disagree just when a path is inside a directory and the other one at
or below a sibling, whose name goes on behind that of the directory with a byte smaller than the slash. -/
theorem order_keeps_directories_together :
    (∀ a b c : Path, le a b = true → le b c = true → le a c = true) ∧
    (∀ a b : Path, le a b = true ∨ le b a = true) ∧
    (∀ a b : Path, le a b = true ∧ le b a = true ↔ a = b) ∧
    (∀ paths sorted : List Path, sorted = sort paths ↔ sorted.Perm paths ∧ Ascending sorted) ∧
    (∀ (tree : FileTree) (root : Path) (extensions : List String) (files : List Path),
      discover tree root extensions = .ok files → Ascending files) ∧
    (∀ (directory : Path) (paths : List Path), directory.isAbsolute = true →
      (∀ path ∈ paths, path.isAbsolute = true) → Ascending paths →
        directory.KeepsTogether paths) ∧
    ∀ path other : Path, path.isAbsolute = true → other.isAbsolute = true →
      (path.Before other ∧ other.toBytes < path.toBytes ↔
        ∃ (directory : Path) (name sibling : Name), name.ContinuesBelowSlash sibling ∧
          (directory.child name).IsAtOrAbove path ∧ path ≠ directory.child name ∧
          (directory.child sibling).IsAtOrAbove other) := by
  refine ⟨le_trans, fun a b => by simpa using le_total a b, fun a b => ?_,
    fun paths sorted => eq_sort_iff, fun tree root extensions files => ascending_of_discover,
    fun directory paths => keepsTogether_of_ascending,
    fun path other => before_and_spelled_after⟩
  constructor
  · rintro ⟨first, second⟩
    exact le_antisymm a b first second
  · rintro rfl
    have level := le_total a a
    rw [Bool.or_self] at level
    exact ⟨level, level⟩

namespace DashedSibling

/-- The directory `/top`. -/
def root : Path := .absolute [⟨[116, 111, 112], by decide⟩]

/-- The name `w`. -/
def name : Name := ⟨[119], by decide⟩

/-- The name `w-.ts`. -/
def dashedName : Name := ⟨[119, 45, 46, 116, 115], by decide⟩

/-- The directory `/top/w`. -/
def directory : Path := root.child name

/-- The file `/top/w/n.ts`. -/
def inside : Path := directory.child ⟨[110, 46, 116, 115], by decide⟩

/-- The file `/top/w-.ts`. -/
def sibling : Path := root.child dashedName

def tree : FileTree :=
  ⟨[(root.names, .directory 0o755), (sibling.names, .file ⟨0o644, [], none⟩),
    (directory.names, .directory 0o755), (inside.names, .file ⟨0o644, [], none⟩)]⟩

end DashedSibling

/-- The file in the directory is found first, the one with the smaller spelling after it. -/
theorem order_keeps_directories_together_dashedSibling :
    discover DashedSibling.tree DashedSibling.root ["ts"] =
      .ok [DashedSibling.inside, DashedSibling.sibling] ∧
    Ascending [DashedSibling.inside, DashedSibling.sibling] ∧
    DashedSibling.inside.Before DashedSibling.sibling ∧
    DashedSibling.sibling.toBytes < DashedSibling.inside.toBytes ∧
    DashedSibling.directory.isAbsolute = true ∧
    (∀ path ∈ [DashedSibling.directory, DashedSibling.inside, DashedSibling.sibling],
      path.isAbsolute = true) ∧
    Ascending [DashedSibling.directory, DashedSibling.inside, DashedSibling.sibling] ∧
    DashedSibling.directory.KeepsTogether
      [DashedSibling.directory, DashedSibling.inside, DashedSibling.sibling] := by
  obtain ⟨_, _, _, _, ascending, together, disagree⟩ := order_keeps_directories_together
  have found : discover DashedSibling.tree DashedSibling.root ["ts"] =
      .ok [DashedSibling.inside, DashedSibling.sibling] := by
    cbv
  have apart := (disagree DashedSibling.inside DashedSibling.sibling rfl rfl).mpr
    ⟨DashedSibling.root, DashedSibling.name, DashedSibling.dashedName,
      ⟨45, [46, 116, 115], by decide, by decide⟩, ⟨DashedSibling.directory.names, rfl, by decide⟩,
      by decide, ⟨DashedSibling.sibling.names, rfl, by decide⟩⟩
  have absolute : ∀ path ∈ [DashedSibling.directory, DashedSibling.inside, DashedSibling.sibling],
      path.isAbsolute = true := by
    decide
  have order : Ascending [DashedSibling.directory, DashedSibling.inside, DashedSibling.sibling] := by
    rw [Ascending]
    decide
  exact ⟨found, ascending _ _ _ _ found, apart.1, apart.2, rfl, absolute, order,
    together _ _ rfl absolute order⟩

end Path

end StrictFiles
