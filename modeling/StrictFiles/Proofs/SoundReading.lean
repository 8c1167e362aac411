import StrictFiles.Document.Reader
import StrictFiles.Proofs.DocumentValues

/-!
Whatever a text spells, what is read from it is sound: numerals that do not fit are refused, and a key
that comes again takes the place of the one before.
-/

namespace StrictFiles

namespace Token

/-- What a numeral may stand for: a whole number of 64 bits, a float, or a number that is none. -/
inductive IsNumeral : Json → Prop
  | null : IsNumeral .null
  | float (x : Binary64) : IsNumeral (.float x)
  | integer {n : Int} (range : -0x8000000000000000 ≤ n ∧ n < 0x8000000000000000) :
    IsNumeral (.integer n)

theorem IsNumeral.sound {value : Json} (numeral : IsNumeral value) : value.Sound := by
  cases numeral with
  | null => exact Json.throughout_alone rfl trivial
  | float x => exact Json.throughout_alone rfl trivial
  | integer range => exact Json.throughout_alone rfl range

theorem isNumeral_of_int64? {n : Int} {value : Json} (fits : int64? n = some value) :
    IsNumeral value := by
  rw [int64?] at fits
  split at fits
  · rename_i range
    cases fits
    exact .integer range
  · cases fits

theorem isNumeral_of_decimal? {negative : Bool} {whole : List Char} {fraction : Option (List Char)}
    {exponent : Option Int} {value : Json}
    (read : decimal? negative whole fraction exponent = some value) : IsNumeral value := by
  rw [decimal?.eq_def] at read
  split at read
  · exact isNumeral_of_int64? read
  · obtain ⟨x, _, rfl⟩ := Option.map_eq_some_iff.mp read
    exact .float x

theorem isNumeral_of_decimalNumeral? {negative : Bool} {text after : List Char} {value : Json}
    (read : decimalNumeral? negative text = some (value, after)) : IsNumeral value := by
  have behind {rest : List Char} {found : Option Json}
      (decimal : ∀ value, found = some value → IsNumeral value)
      (read : found.map (·, rest) = some (value, after)) : IsNumeral value := by
    obtain ⟨_, known, same⟩ := Option.map_eq_some_iff.mp read
    cases same
    exact decimal value known
  rw [decimalNumeral?] at read
  split at read
  · split at read
    · cases read
    · exact behind (fun _ => isNumeral_of_decimal?) read
  · cases read
  · exact behind (fun _ => isNumeral_of_decimal?) read
  · exact behind (fun _ => isNumeral_of_decimal?) read

theorem isNumeral_of_numeral? {text after : List Char} {value : Json}
    (read : numeral? text = some (value, after)) : IsNumeral value := by
  rw [numeral?.eq_def] at read
  split at read
  · split at read
    · cases read
    · rw [negativeNumeral?] at read
      split at read
      · cases read
        exact .null
      · cases read
        exact .null
      · exact isNumeral_of_decimalNumeral? read
  · split at read
    · cases read
    · exact isNumeral_of_decimalNumeral? read
  · rw [unsignedNumeral?.eq_def] at read
    split at read
    · split at read
      · dsimp only at read
        split at read
        · rename_i small
          cases read
          exact .integer (by omega)
        · cases read
      · exact isNumeral_of_decimalNumeral? read
    · exact isNumeral_of_decimalNumeral? read

theorem isNumeral_of_token? {text after : List Char} {value : Json}
    (read : token? text = some (.number value, after)) : IsNumeral value := by
  rw [token?.eq_def] at read
  split at read
  · cases read
  split at read
  · cases read
  split at read
  · split at read
    · obtain ⟨chars, _, same⟩ := Option.map_eq_some_iff.mp read
      cases same
    · cases read
  split at read
  · split at read
    · cases read
    · obtain ⟨chars, _, same⟩ := Option.map_eq_some_iff.mp read
      cases same
  · obtain ⟨⟨found, rest⟩, known, same⟩ := Option.map_eq_some_iff.mp read
    cases same
    exact isNumeral_of_numeral? known

theorem isNumeral_of_tokens {steps : Nat} {text : List Char} {tokens : List Token}
    (taken : tokensWithin? steps text = some tokens) :
    ∀ value, .number value ∈ tokens → IsNumeral value := by
  fun_induction tokensWithin? steps text generalizing tokens with
  | case1 =>
    cases taken
    exact nofun
  | case2 => cases taken
  | case3 steps c rest blank ih => exact ih taken
  | case4 steps rest noBlank after behind ih => exact ih taken
  | case5 => cases taken
  | case6 steps c rest noBlank noComment token after first ih =>
    obtain ⟨later, behind, rfl⟩ := Option.map_eq_some_iff.mp taken
    intro value among
    rcases List.mem_cons.mp among with here | there
    · subst here
      exact isNumeral_of_token? first
    · exact ih behind value there
  | case7 => cases taken

end Token

namespace Frame

/-- The container so far. -/
def container : Frame → Json
  | .array before => .array before
  | .object before _ => .object before

end Frame

namespace Cursor

/-- The documents that have been read so far, in the containers that are open. -/
def held : Cursor → List Json
  | .atValue around => around.map Frame.container
  | .atItem items around | .afterItem items around => .array items :: around.map Frame.container
  | .atKey members around | .afterKey members _ around | .afterMember members around =>
    .object members :: around.map Frame.container
  | .done document => [document]

/-- All that has been read is sound. -/
def IsSound (cursor : Cursor) : Prop :=
  ∀ document ∈ cursor.held, document.Sound

theorem isSound_complete {value : Json} {around : List Frame} (sound : value.Sound)
    (outside : IsSound (.atValue around)) : IsSound (complete value around) := by
  cases around with
  | nil =>
    intro document among
    rwa [List.mem_singleton.mp among]
  | cons frame around =>
    rw [IsSound, held, List.map_cons, List.forall_mem_cons] at outside
    cases frame with
    | array before =>
      refine List.forall_mem_cons.mpr ⟨?_, outside.2⟩
      have items := (Json.throughout_array.mp outside.1).2
      refine Json.throughout_array.mpr ⟨trivial, ?_⟩
      intro item among
      rcases List.mem_append.mp among with old | new
      · exact items item old
      · rwa [List.mem_singleton.mp new]
    | object before key => exact List.forall_mem_cons.mpr ⟨outside.1.put key sound, outside.2⟩

theorem sound_of_scalar? {token : Token} {value : Json} (read : scalar? token = some value)
    (numeral : ∀ value, token = .number value → Token.IsNumeral value) : value.Sound := by
  unfold scalar? at read
  split at read
  case h_2 => cases read; exact (numeral _ rfl).sound
  case h_8 => cases read
  all_goals cases read; exact Json.throughout_alone rfl trivial

theorem IsSound.start {around : List Frame} (outside : IsSound (.atValue around)) {token : Token}
    {next : Cursor} (numeral : ∀ value, token = .number value → Token.IsNumeral value)
    (read : start? around token = some next) : next.IsSound := by
  rw [start?.eq_def] at read
  split at read
  · cases read
    exact List.forall_mem_cons.mpr ⟨Json.throughout_array.mpr ⟨trivial, nofun⟩, outside⟩
  · cases read
    exact List.forall_mem_cons.mpr ⟨Json.throughout_object.mpr ⟨List.nodup_nil, nofun⟩, outside⟩
  · obtain ⟨value, known, rfl⟩ := Option.map_eq_some_iff.mp read
    exact isSound_complete (sound_of_scalar? known numeral) outside

theorem isSound_closed {container : Json} {around : List Frame}
    (sound : ∀ document ∈ container :: around.map Frame.container, document.Sound) :
    IsSound (complete container around) := by
  rw [List.forall_mem_cons] at sound
  exact isSound_complete sound.1 sound.2

/-- A token adds to what has been read, and keeps it sound. -/
theorem IsSound.step {cursor next : Cursor} (sound : cursor.IsSound) {token : Token}
    (numeral : ∀ value, token = .number value → Token.IsNumeral value)
    (read : cursor.step token = some next) : next.IsSound := by
  -- One goal for each rule of `step`, in its order.
  rw [Cursor.step.eq_def] at read
  split at read
  · exact sound.start numeral read
  · cases read
    exact isSound_closed sound
  · rename_i before around _
    have outside : IsSound (.atValue (.array before :: around)) := sound
    exact outside.start numeral read
  · cases read
    exact sound
  · cases read
    exact isSound_closed sound
  · cases read
  · cases read
    exact isSound_closed sound
  · obtain ⟨key, _, rfl⟩ := Option.map_eq_some_iff.mp read
    exact sound
  · cases read
    exact sound
  · cases read
  · cases read
    exact sound
  · cases read
    exact isSound_closed sound
  · cases read
  · cases read

theorem IsSound.run {tokens : List Token} {cursor last : Cursor} (sound : cursor.IsSound)
    (numeral : ∀ value, .number value ∈ tokens → Token.IsNumeral value)
    (read : tokens.foldlM Cursor.step cursor = some last) : last.IsSound := by
  induction tokens generalizing cursor with
  | nil =>
    cases read
    exact sound
  | cons token rest ih =>
    rw [List.foldlM_cons] at read
    obtain ⟨next, first, later⟩ := Option.bind_eq_some_iff.mp read
    have known (value : Json) (here : token = .number value) : Token.IsNumeral value :=
      numeral value (here ▸ List.mem_cons_self)
    exact ih (sound.step known first)
      (fun value among => numeral value (List.mem_cons_of_mem _ among)) later

end Cursor

/-- Only sound documents are read. -/
theorem Json.sound_of_read? {text : List Char} {document : Json}
    (read : Json.read? text = some document) : document.Sound := by
  obtain ⟨tokens, taken, folded⟩ := Option.bind_eq_some_iff.mp read
  obtain ⟨last, whole, ended⟩ := Option.bind_eq_some_iff.mp folded
  have start : Cursor.IsSound (.atValue []) := nofun
  have sound := start.run (Token.isNumeral_of_tokens taken) whole
  cases last with
  | done known =>
    cases ended
    exact sound document List.mem_cons_self
  | _ => cases ended

end StrictFiles
