import Mathlib.Data.List.Nodup
import RecordFilter.Config
import RecordFilter.Proofs.JsonLibrary

/-!
# Configurations that come from documents

What the members of an object say as a configuration is told by `Config.IsDescribedBy`, for which
their order is of no account. A record with the two settings as its fields is filled to that effect
and to no other (`Config.sets_fields_iff`), so a document of an object is accepted with any library
as the configuration that its members describe (`Config.objectText_acceptedExactly`).

What makes the reading of a text fail for the sake of a value, a number that is too large or too
deep a nesting, makes no difference here: no setting has such a value.
-/

namespace RecordFilter

namespace Config

/-! ## What an object describes -/

/-- What a value says of unclosed parentheses. -/
inductive SetsMode : Json → ParseMode → Prop
  | bool (b : Bool) : SetsMode (.bool b) (.ofAllowed b)

/-- What a value says of the capacity of the cache. -/
inductive SetsCapacity : Json → Nat → Prop
  /-- There are digits only: no sign, nothing after a point, no exponent. -/
  | digits {whole : List Char} (h : Numeral.valueOfDigits whole < Nat.pow 2 64) :
    SetsCapacity (.number ⟨false, whole, [], none⟩) (Numeral.valueOfDigits whole)

/-- What the members say of one setting: what the value under its key says, if there is one. -/
inductive SettingIs {α : Type} (Sets : Json → α → Prop) (default : α)
    (members : List (String × Json)) (key : String) : α → Prop
  | missing (h : ∀ j, (key, j) ∉ members) : SettingIs Sets default members key default
  | given {j : Json} {a : α} (h : (key, j) ∈ members) (ha : Sets j a) :
    SettingIs Sets default members key a

/-- What the members of an object say as a configuration. -/
structure IsDescribedBy (c : Config) (members : List (String × Json)) : Prop where
  /-- There are no other keys than the two settings. -/
  known : ∀ m ∈ members, m.1 = "allow_unclosed_paren" ∨ m.1 = "cache_capacity"
  /-- No key is repeated. -/
  nodup : (members.map Prod.fst).Nodup
  mode : SettingIs SetsMode .strict members "allow_unclosed_paren" c.mode
  capacity : SettingIs SetsCapacity 4096 members "cache_capacity" c.cacheCapacity

section Members

variable {α : Type} {Sets : Json → α → Prop} {default a : α} {members others : List (String × Json)}
  {key : String} {c : Config}

theorem SettingIs.perm (h : members.Perm others) (hset : SettingIs Sets default members key a) :
    SettingIs Sets default others key a := by
  cases hset with
  | missing hmissing => exact .missing fun j hj => hmissing j (h.mem_iff.2 hj)
  | given hgiven ha => exact .given (h.mem_iff.1 hgiven) ha

/-- A setting that is not given has its default. -/
theorem settingIs_iff_of_missing (h : key ∉ members.map Prod.fst) :
    SettingIs Sets default members key a ↔ a = default := by
  have hmissing (j : Json) : (key, j) ∉ members := fun hj => h (List.mem_map_of_mem hj)
  constructor
  · intro hset
    cases hset with
    | missing => rfl
    | given hgiven _ => exact absurd hgiven (hmissing _)
  · rintro rfl
    exact .missing hmissing

/-- A member says the setting under its key. -/
theorem settingIs_cons_self_iff {j : Json} (h : key ∉ members.map Prod.fst) :
    SettingIs Sets default ((key, j) :: members) key a ↔ Sets j a := by
  constructor
  · intro hset
    cases hset with
    | missing hmissing => exact absurd List.mem_cons_self (hmissing j)
    | given hgiven ha =>
      rcases List.mem_cons.1 hgiven with hhead | htail
      · cases hhead
        exact ha
      · exact absurd (List.mem_map_of_mem htail) h
  · exact fun ha => .given List.mem_cons_self ha

/-- A member says nothing of the setting under another key. -/
theorem settingIs_cons_of_ne_iff {other : String} {j : Json} (h : key ≠ other) :
    SettingIs Sets default ((other, j) :: members) key a ↔
      SettingIs Sets default members key a := by
  have hmem (i : Json) : (key, i) ∈ (other, j) :: members ↔ (key, i) ∈ members := by simp [h]
  constructor
  · intro hset
    cases hset with
    | missing hmissing => exact .missing fun i hi => hmissing i ((hmem i).2 hi)
    | given hgiven ha => exact .given ((hmem _).1 hgiven) ha
  · intro hset
    cases hset with
    | missing hmissing => exact .missing fun i hi => hmissing i ((hmem i).1 hi)
    | given hgiven ha => exact .given ((hmem _).2 hgiven) ha

theorem IsDescribedBy.perm (h : members.Perm others) (hc : c.IsDescribedBy members) :
    c.IsDescribedBy others where
  known m hm := hc.known m (h.mem_iff.2 hm)
  nodup := (h.map Prod.fst).nodup_iff.1 hc.nodup
  mode := hc.mode.perm h
  capacity := hc.capacity.perm h

end Members

/-! ## The values of settings -/

/-- The value is no array and no object, and its number, if it is one, is not too large. -/
def IsPlain (j : Json) : Prop :=
  j.FitsDoubles ∧ j.depth = 0

theorem SetsMode.isPlain {j : Json} {mode : ParseMode} (h : SetsMode j mode) : IsPlain j := by
  cases h
  exact ⟨by simp [Json.FitsDoubles, Json.numbers], rfl⟩

theorem SetsCapacity.isPlain {j : Json} {capacity : Nat} (h : SetsCapacity j capacity) :
    IsPlain j := by
  obtain ⟨hlimit⟩ := h
  have hdouble : Nat.pow 2 64 ≤ Numeral.doubleLimit := by decide +kernel
  refine ⟨?_, rfl⟩
  simp [Json.FitsDoubles, Json.numbers, Numeral.fitsDouble, Nat.lt_of_lt_of_le hlimit hdouble]

/-- The value of a member whose key is not repeated is the one that says the setting. -/
theorem SettingIs.isPlain {α : Type} {Sets : Json → α → Prop} {default a : α}
    {members : List (String × Json)} {key : String} {j : Json}
    (hnodup : (members.map Prod.fst).Nodup) (hplain : ∀ {j a}, Sets j a → IsPlain j)
    (h : SettingIs Sets default members key a) (hj : (key, j) ∈ members) : IsPlain j := by
  cases h with
  | missing hmissing => exact absurd hj (hmissing j)
  | given hgiven ha =>
    cases List.inj_on_of_nodup_map hnodup hgiven hj rfl
    exact hplain ha

section Object

variable {members : List (String × Json)} {c : Config} (h : c.IsDescribedBy members)
include h

theorem IsDescribedBy.isPlain : ∀ m ∈ members, IsPlain m.2 := by
  rintro ⟨key, j⟩ hm
  rcases h.known _ hm with rfl | rfl
  · exact h.mode.isPlain h.nodup SetsMode.isPlain hm
  · exact h.capacity.isPlain h.nodup SetsCapacity.isPlain hm

theorem IsDescribedBy.fitsDoubles : (Json.object members).FitsDoubles :=
  Json.fitsDoubles_object_iff.2 fun m hm => (h.isPlain m hm).1

theorem IsDescribedBy.depth_le : (Json.object members).depth ≤ 1 := by
  have hmembers : Json.depthOfMembers members ≤ 0 :=
    Json.depthOfMembers_le_iff.2 fun m hm => Nat.le_of_eq (h.isPlain m hm).2
  rw [Json.depth]
  omega

end Object

/-! ## The record of the two settings -/

variable {ε : Type} {lib : Json.Library ε}

theorem nodup_fields : ((fields lib).map Json.Field.key).Nodup := by
  have hkeys : modeKey ≠ capacityKey := by decide
  simp [fields, hkeys]

section Plain

variable (hplain : lib.ConvertsPlainly)
include hplain

theorem setMode_eq_ok_iff {j : Json} {c d : Config} :
    (do return { c with mode := .ofAllowed (← lib.flag j) }) = (.ok d : Except ε Config) ↔
      ∃ mode, SetsMode j mode ∧ d = { c with mode := mode } := by
  rw [bind_eq_ok_iff]
  constructor
  · rintro ⟨b, hb, hd⟩
    obtain rfl := (hplain.flag_eq_ok_iff j b).1 hb
    cases hd
    exact ⟨_, .bool b, rfl⟩
  · rintro ⟨_, ⟨b⟩, rfl⟩
    exact ⟨b, (hplain.flag_eq_ok_iff _ b).2 rfl, rfl⟩

theorem setCapacity_eq_ok_iff {j : Json} {c d : Config} :
    (do return { c with cacheCapacity := ← lib.count j }) = (.ok d : Except ε Config) ↔
      ∃ capacity, SetsCapacity j capacity ∧ d = { c with cacheCapacity := capacity } := by
  rw [bind_eq_ok_iff]
  constructor
  · rintro ⟨n, hn, hd⟩
    obtain ⟨digits, rfl, rfl, hlimit⟩ := (hplain.count_eq_ok_iff j n).1 hn
    cases hd
    exact ⟨_, .digits hlimit, rfl⟩
  · rintro ⟨_, ⟨hlimit⟩, rfl⟩
    exact ⟨_, (hplain.count_eq_ok_iff _ _).2 ⟨_, rfl, rfl, hlimit⟩, rfl⟩

theorem sets_fields_cons_iff {c d : Config} {key : String} {j : Json}
    {rest : List (String × Json)} :
    Json.Library.Sets (fields lib) c ((key, j) :: rest) d ↔
      (key = modeKey ∧ ∃ mode, SetsMode j mode ∧
        Json.Library.Sets (fields lib) { c with mode := mode } rest d) ∨
      (key = capacityKey ∧ ∃ capacity, SetsCapacity j capacity ∧
        Json.Library.Sets (fields lib) { c with cacheCapacity := capacity } rest d) := by
  rw [Json.Library.sets_cons_iff]
  constructor
  · rintro ⟨field, hfield, rfl, t, hset, hrest⟩
    rcases List.mem_pair.1 hfield with rfl | rfl
    · obtain ⟨mode, hmode, rfl⟩ := (setMode_eq_ok_iff hplain).1 hset
      exact .inl ⟨rfl, mode, hmode, hrest⟩
    · obtain ⟨capacity, hcapacity, rfl⟩ := (setCapacity_eq_ok_iff hplain).1 hset
      exact .inr ⟨rfl, capacity, hcapacity, hrest⟩
  · rintro (⟨rfl, mode, hmode, hrest⟩ | ⟨rfl, capacity, hcapacity, hrest⟩)
    · exact ⟨_, List.mem_pair.2 (.inl rfl), rfl, _,
        (setMode_eq_ok_iff hplain).2 ⟨mode, hmode, rfl⟩, hrest⟩
    · exact ⟨_, List.mem_pair.2 (.inr rfl), rfl, _,
        (setCapacity_eq_ok_iff hplain).2 ⟨capacity, hcapacity, rfl⟩, hrest⟩

/-- The settings of a record are filled with what the members say, whatever their order. -/
theorem sets_fields_iff {c d : Config} {members : List (String × Json)}
    (hnodup : (members.map Prod.fst).Nodup) :
    Json.Library.Sets (fields lib) c members d ↔
      (∀ m ∈ members, m.1 = modeKey ∨ m.1 = capacityKey) ∧
        SettingIs SetsMode c.mode members modeKey d.mode ∧
        SettingIs SetsCapacity c.cacheCapacity members capacityKey d.cacheCapacity := by
  induction members generalizing c with
  | nil =>
    rw [Json.Library.sets_nil_iff, settingIs_iff_of_missing (by simp),
      settingIs_iff_of_missing (by simp)]
    cases c
    cases d
    simp
  | cons m rest ih =>
    obtain ⟨key, j⟩ := m
    obtain ⟨hkey, hrest⟩ := List.nodup_cons.1 hnodup
    have hkeys : modeKey ≠ capacityKey := by decide
    rw [sets_fields_cons_iff hplain, List.forall_mem_cons]
    by_cases hmodeKey : key = modeKey
    · subst hmodeKey
      simp only [settingIs_cons_self_iff hkey, settingIs_cons_of_ne_iff hkeys.symm, ih hrest,
        settingIs_iff_of_missing hkey, hkeys, true_and, false_and, or_false]
      constructor
      · rintro ⟨mode, hmode, hknown, rfl, hcapacity⟩
        exact ⟨hknown, hmode, hcapacity⟩
      · rintro ⟨hknown, hmode, hcapacity⟩
        exact ⟨d.mode, hmode, hknown, rfl, hcapacity⟩
    · by_cases hcapacityKey : key = capacityKey
      · subst hcapacityKey
        simp only [settingIs_cons_self_iff hkey, settingIs_cons_of_ne_iff hkeys, ih hrest,
          settingIs_iff_of_missing hkey, hkeys.symm, true_and, false_and, false_or, or_true]
        constructor
        · rintro ⟨capacity, hcapacity, hknown, hmode, rfl⟩
          exact ⟨hknown, hmode, hcapacity⟩
        · rintro ⟨hknown, hmode, hcapacity⟩
          exact ⟨d.cacheCapacity, hcapacity, hknown, hmode, rfl⟩
      · simp only [hmodeKey, hcapacityKey, false_and, or_self]

variable (hrecords : lib.FillsRecords)
include hrecords

/-- An object gives the configuration that its members describe. -/
theorem record_object_eq_ok_iff_isDescribedBy {members : List (String × Json)} {c : Config} :
    lib.record (fields lib) {} (.object members) = .ok c ↔ c.IsDescribedBy members := by
  rw [hrecords.record_object_eq_ok_iff _ nodup_fields]
  constructor
  · rintro ⟨hnodup, hsets⟩
    obtain ⟨hknown, hmode, hcapacity⟩ := (sets_fields_iff hplain hnodup).1 hsets
    exact ⟨hknown, hnodup, hmode, hcapacity⟩
  · intro h
    exact ⟨h.nodup, (sets_fields_iff hplain h.nodup).2 ⟨h.known, h.mode, h.capacity⟩⟩

end Plain

/-! ## The text of an object -/

theorem ofDocument_of_ne_ok {text : String} (h : ∀ c, ofDocument lib text ≠ .ok c) :
    ∃ details, ofDocument lib text = .error (.invalidConfig details) := by
  rw [ofDocument] at h ⊢
  cases hread : lib.read (lib.record (fields lib) {}) text with
  | error error => exact ⟨lib.describe error, rfl⟩
  | ok c =>
    rw [hread] at h
    exact absurd rfl (h c)

section Documents

variable (hread : lib.ReadsStrictly)
include hread

theorem ofDocument_eq_ok_iff {text : String} {c : Config} :
    ofDocument lib text = .ok c ↔
      ∃ j : Json, j.PartSpelled text.toList ∧ j.FitsDoubles ∧ j.depth ≤ 127 ∧
        lib.record (fields lib) {} j = .ok c := by
  rw [ofDocument, mapError_eq_ok_iff, hread.read_eq_ok_iff]

theorem ofDocument_eq_ok_iff_isDescribedBy (hplain : lib.ConvertsPlainly)
    (hrecords : lib.FillsRecords) {text : String} {members : List (String × Json)} {c : Config}
    (htext : (Json.object members).PartSpelled text.toList) :
    ofDocument lib text = .ok c ↔ c.IsDescribedBy members := by
  rw [ofDocument_eq_ok_iff hread,
    ← record_object_eq_ok_iff_isDescribedBy hplain hrecords]
  constructor
  · rintro ⟨j, hj, -, -, hc⟩
    obtain rfl := Json.eq_of_partSpelled hj htext
    exact hc
  · intro hc
    have hdescribed := (record_object_eq_ok_iff_isDescribedBy hplain hrecords).1 hc
    have hdepth : (Json.object members).depth ≤ 127 := Nat.le_trans hdescribed.depth_le (by decide)
    exact ⟨_, htext, hdescribed.fitsDoubles, hdepth, hc⟩

end Documents

/-- A text of an object is accepted as the configuration that its members describe, if they describe
one, and is no valid configuration if they do not. Texts of the same members say the same, in
whatever order the members stand and however they are written. A text that is not written by the
grammar is refused in the same way: among others one with half a surrogate pair alone in a key, and
one with a comma too many. -/
theorem objectText_acceptedExactly (hread : lib.ReadsStrictly) (hplain : lib.ConvertsPlainly)
    (hrecords : lib.FillsRecords) (text : String) :
    (∀ members, (Json.object members).PartSpelled text.toList →
      (∀ c, ofDocument lib text = .ok c ↔ c.IsDescribedBy members) ∧
      ((∀ c : Config, ¬ c.IsDescribedBy members) →
        ∃ details, ofDocument lib text = .error (.invalidConfig details)) ∧
      ∀ others other, members.Perm others → (Json.object others).PartSpelled other.toList →
        ∀ c, ofDocument lib other = .ok c ↔ ofDocument lib text = .ok c) ∧
    ((∀ j : Json, ¬ j.PartSpelled text.toList) →
      ∃ details, ofDocument lib text = .error (.invalidConfig details)) := by
  constructor
  · intro members htext
    have haccepted (c : Config) : ofDocument lib text = .ok c ↔ c.IsDescribedBy members :=
      ofDocument_eq_ok_iff_isDescribedBy hread hplain hrecords htext
    refine ⟨haccepted, ?_, ?_⟩
    · intro hnone
      exact ofDocument_of_ne_ok fun c hc => hnone c ((haccepted c).1 hc)
    · intro others other hperm hother c
      rw [haccepted, ofDocument_eq_ok_iff_isDescribedBy hread hplain hrecords hother]
      exact ⟨IsDescribedBy.perm hperm.symm, IsDescribedBy.perm hperm⟩
  · intro hnone
    refine ofDocument_of_ne_ok fun c hc => ?_
    obtain ⟨j, hj, -⟩ := (ofDocument_eq_ok_iff hread).1 hc
    exact hnone j hj

/-- The greatest capacity there is, under a key with an escape; the same settings in the other
order, with neither escapes nor blanks; and half a surrogate pair for a key. -/
theorem objectText_acceptedExactly_escapedKey :
    let capacity : Json := .number ⟨false, "18446744073709551615".toList, [], none⟩
    let members : List (String × Json) :=
      [("cache_capacity", capacity), ("allow_unclosed_paren", .bool true)]
    let text :=
      "\x7b \"\\u0063ache_capacity\" : 18446744073709551615 ,\"allow_unclosed_paren\":true\t\x7d"
    let other := "\x7b\"allow_unclosed_paren\":true,\"cache_capacity\":18446744073709551615\x7d"
    (Json.object members).PartSpelled text.toList ∧
    (Json.object members.reverse).PartSpelled other.toList ∧
    ofDocument .builtIn text = .ok ⟨.permissive, 18446744073709551615⟩ ∧
    ofDocument .builtIn other = .ok ⟨.permissive, 18446744073709551615⟩ ∧
    ∃ details, ofDocument .builtIn "\x7b\"\\ud800\":true\x7d" =
      .error (.invalidConfig details) := by
  intro capacity members
  dsimp only
  have haccepted :=
    objectText_acceptedExactly Json.Library.builtIn_readsStrictly
      Json.Library.builtIn_convertsPlainly Json.Library.builtIn_fillsRecords
  have hhalf (j : Json) : ¬ j.PartSpelled "\x7b\"\\ud800\":true\x7d".toList := by
    intro hj
    have hnone : (Json.parse? "\x7b\"\\ud800\":true\x7d").isNone = true := by decide +kernel
    rw [Json.parse?_of_partSpelled hj] at hnone
    cases hnone
  -- for any two texts, so that no step below has to look into the two at hand
  have hsettings {text other : String} (htext : (Json.object members).PartSpelled text.toList)
      (hother : (Json.object members.reverse).PartSpelled other.toList) :
      ofDocument .builtIn text = .ok ⟨.permissive, 18446744073709551615⟩ ∧
        ofDocument .builtIn other = .ok ⟨.permissive, 18446744073709551615⟩ ∧
        ∃ details, ofDocument .builtIn "\x7b\"\\ud800\":true\x7d" =
          .error (.invalidConfig details) := by
    obtain ⟨hdescribed, -, hsame⟩ := (haccepted text).1 members htext
    have hfirst : ofDocument .builtIn text = .ok ⟨.permissive, 18446744073709551615⟩ := by
      rw [hdescribed]
      exact ⟨by simp [members], by simp [members], .given (.tail _ (.head _)) (.bool true),
        .given (.head _) (.digits (by decide +kernel))⟩
    exact ⟨hfirst, (hsame _ _ (List.reverse_perm members).symm hother _).2 hfirst,
      (haccepted _).2 hhalf⟩
  have hnone := Json.areBlanks_nil
  have hspace : Json.AreBlanks [' '] := by decide
  have htab : Json.AreBlanks ['\t'] := by decide
  have hescape : Json.CharSpelled 'c' ['\\', 'u', '0', '0', '6', '3'] :=
    .unit (.intro (w := 0) (x := 0) (y := 6) (z := 3) rfl rfl rfl rfl)
  have hchars : List.Forall₂ Json.CharSpelled ('c' :: "ache_capacity".toList) _ :=
    .cons hescape (Json.charsSpelled_plain (by decide))
  have hescapedKey := Json.StringSpelled.intro (s := "cache_capacity") hchars
  have hcapacityKey := Json.StringSpelled.intro (s := "cache_capacity")
    (Json.charsSpelled_plain (by decide))
  have hmodeKey := Json.StringSpelled.intro (s := "allow_unclosed_paren")
    (Json.charsSpelled_plain (by decide))
  have hnumber : Numeral.Spelled ⟨false, "18446744073709551615".toList, [], none⟩
      ("18446744073709551615".toList ++ ([] ++ [])) :=
    .intro ⟨by decide +kernel, by simp⟩ .absent .absent
  have htext := Json.PartSpelled.intro hnone hnone (.object hnone
    (.cons (.intro hspace hspace hescapedKey (.intro hspace hspace (.number hnumber)))
      (.cons (.intro hnone hnone hmodeKey (.intro hnone htab .true)) .nil)))
  have hother := Json.PartSpelled.intro hnone hnone (.object hnone
    (.cons (.intro hnone hnone hmodeKey (.intro hnone hnone .true))
      (.cons (.intro hnone hnone hcapacityKey (.intro hnone hnone (.number hnumber))) .nil)))
  exact ⟨htext, hother, hsettings htext hother⟩

example : ofJsonText? "\x7b\"cache_capacity\":18446744073709551616\x7d" = none := by decide +kernel

end Config

end RecordFilter
