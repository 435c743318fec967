import RecordFilter.Proofs.HostMeaning
import RecordFilter.Proofs.Outcome

/-!
# Configurations that come from a script

What a value of the calling program says as a configuration is told by `Meaning.Describes`, and what
is wrong with a value that says none by `Meaning.Refuses`: the first key of a dictionary that is no
setting, before any value; then a value that one of the settings cannot have, the one for unclosed
parentheses first.

A call that installs a configuration does what one installation does, or has no effect at all
(`initConfig_allOrNothing`). How the settings are looked up makes no difference to it: once its keys
have been checked, a dictionary says what an object with the same settings says.
-/

namespace RecordFilter.Scripting

variable {α ε : Type} [Host α ε]

/-- The value has another one under a name, which is found. -/
inductive Offers (v : α) (name : String) (w : α) : Prop
  | item {keys : List α} (hkeys : Host.keys? v = some keys)
    (h : Host.getItem v name = .ok (some w))
  | attr (hkeys : Host.keys? v = none) (h : Host.getAttr v name = .ok w)

namespace Meaning

section Vocabulary

variable (m : Meaning α ε)

/-- The key is one of the two settings. -/
def IsSetting (key : α) : Prop :=
  m.kind key = .text (some "allow_unclosed_paren") ∨ m.kind key = .text (some "cache_capacity")

/-- All keys of a dictionary are settings. An object may have other attributes. -/
def HasOnlySettings (v : α) : Prop :=
  ∀ keys, Host.keys? v = some keys → ∀ key ∈ keys, m.IsSetting key

/-- The value gives a setting: it has a value for it, which is not the absent one. -/
def Gives (v : α) (name : String) (w : α) : Prop :=
  Offers v name w ∧ m.kind w ≠ .absent

/-- The value is or stands for a truth value. -/
def SaysFlag (w : α) (b : Bool) : Prop :=
  (m.kind w).truth? = some b

/-- The value is or stands for a natural number of 64 bits. -/
def SaysCount (w : α) (n : Nat) : Prop :=
  (m.kind w).whole? = some (n : Int) ∧ n < Nat.pow 2 64

/-- What a configuration says of one setting: what the value given for it says, if there is one. -/
inductive SettingIs {β : Type} (Says : α → β → Prop) (default : β) (v : α) (name : String) :
    β → Prop
  | missing (h : ∀ w, ¬ m.Gives v name w) : SettingIs Says default v name default
  | given {w : α} {b : β} (h : m.Gives v name w) (hb : Says w b) :
    SettingIs Says default v name b

/-- What a value says as a configuration. -/
inductive Describes (v : α) : Config → Prop
  | absent (h : m.kind v = .absent) : Describes v ⟨.strict, 4096⟩
  | settings {allowed : Bool} {capacity : Nat} (hv : m.kind v ≠ .absent)
    (hkeys : m.HasOnlySettings v)
    (hmode : m.SettingIs m.SaysFlag false v "allow_unclosed_paren" allowed)
    (hcapacity : m.SettingIs m.SaysCount 4096 v "cache_capacity" capacity) :
    Describes v ⟨.ofAllowed allowed, capacity⟩

/-- What is wrong with a key that is no setting. -/
inductive BlamesKey (key : α) (e : ε) : Prop
  /-- It is no text. -/
  | type (hkey : ∀ characters?, m.kind key ≠ .text characters?) (he : m.IsTypeError e)
  /-- It is a text without characters, which the exception carries. -/
  | encoding (hkey : m.kind key = .text none) (he : m.IsValueError e)
    (hsubject : m.subject? e = some key)
  /-- It is another text, which the message names. -/
  | unknown {name : String} (hkey : m.kind key = .text (some name)) (he : m.IsValueError e)
    (hmessage : m.message? e = some ("Invalid config: unknown key: " ++ name))

variable [Exceptions ε]

/-- What is wrong with a setting: the value that is given for it cannot be converted. -/
inductive BlamesSetting {β : Type} (convert : α → Except ε β) (v : α) (name : String) (e : ε) : Prop
  | intro {w : α} {cause : ε} (h : m.Gives v name w) (hcause : convert w = .error cause)
    (he : m.IsValueError e)
    (hmessage :
      m.message? e = some ("Invalid config: " ++ (name ++ ": " ++ Exceptions.describe cause)))

/-- What is wrong with a value that is no configuration. -/
inductive Refuses (v : α) (e : ε) : Prop
  /-- The first key that is no setting. -/
  | key {before after : List α} {key : α} (hkeys : Host.keys? v = some (before ++ key :: after))
    (hbefore : ∀ k ∈ before, m.IsSetting k) (hkey : ¬ m.IsSetting key) (he : m.BlamesKey key e)
  /-- The first setting. -/
  | mode (hkeys : m.HasOnlySettings v)
    (hmode : m.BlamesSetting Host.flag v "allow_unclosed_paren" e)
  /-- The second setting, with nothing wrong with the first one. -/
  | capacity {allowed : Bool} (hkeys : m.HasOnlySettings v)
    (hmode : m.SettingIs m.SaysFlag false v "allow_unclosed_paren" allowed)
    (hcapacity : m.BlamesSetting Host.count v "cache_capacity" e)

end Vocabulary

/-! ## One setting -/

theorem member?_eq_some_iff {v w : α} {name : String} :
    member? v name = some w ↔ Offers v name w := by
  rw [member?]
  constructor
  · intro h
    cases hkeys : Host.keys? v with
    | none =>
      rw [hkeys] at h
      cases hattr : Host.getAttr v name with
      | error e => simp [hattr, Except.toOption] at h
      | ok u =>
        obtain rfl : u = w := by simpa [hattr, Except.toOption] using h
        exact .attr hkeys hattr
    | some keys =>
      rw [hkeys] at h
      cases hitem : Host.getItem v name with
      | error e => simp [hitem, Except.toOption] at h
      | ok u? =>
        obtain rfl : u? = some w := by simpa [hitem, Except.toOption] using h
        exact .item hkeys hitem
  · intro h
    cases h with
    | item hkeys h => simp [hkeys, h, Except.toOption]
    | attr hkeys h => simp [hkeys, h, Except.toOption]

variable [Exceptions ε] {m : Meaning α ε} (hm : m.IsKept)
include hm

section Setting

variable {β : Type} {convert : α → Except ε β} {default : β} {v w : α} {name : String}

theorem settingOf_of_gives (h : m.Gives v name w) :
    settingOf convert default v name =
      (convert w).mapError fun cause =>
        raise (.invalidConfig (name ++ ": " ++ Exceptions.describe cause)) := by
  have hpresent : ¬(Host.isAbsent w = true) := fun hw => h.2 ((hm.isAbsent_iff w).1 hw)
  rw [settingOf, member?_eq_some_iff.2 h.1]
  exact if_neg hpresent

theorem settingOf_of_missing (h : ∀ w, ¬ m.Gives v name w) :
    settingOf convert default v name = .ok default := by
  rw [settingOf]
  cases hmember : member? v name with
  | none => rfl
  | some w =>
    have habsent : m.kind w = .absent :=
      Decidable.byContradiction fun hw => h w ⟨member?_eq_some_iff.1 hmember, hw⟩
    exact if_pos ((hm.isAbsent_iff w).2 habsent)

/-- A setting is found as what is said of it, if the conversion finds what a value says. -/
theorem settingOf_eq_ok_iff {Says : α → β → Prop} (hconvert : ∀ w b, convert w = .ok b ↔ Says w b)
    {b : β} : settingOf convert default v name = .ok b ↔ m.SettingIs Says default v name b := by
  constructor
  · intro h
    by_cases hgives : ∃ w, m.Gives v name w
    · obtain ⟨w, hw⟩ := hgives
      rw [settingOf_of_gives hm hw, mapError_eq_ok_iff, hconvert] at h
      exact .given hw h
    · rw [settingOf_of_missing hm (not_exists.1 hgives)] at h
      cases h
      exact .missing (not_exists.1 hgives)
  · intro h
    cases h with
    | missing hmissing => exact settingOf_of_missing hm hmissing
    | given hgives hb => rw [settingOf_of_gives hm hgives, mapError_eq_ok_iff, hconvert]; exact hb

theorem blamesSetting_of_settingOf {e : ε} (h : settingOf convert default v name = .error e) :
    m.BlamesSetting convert v name e := by
  by_cases hgives : ∃ w, m.Gives v name w
  · obtain ⟨w, hw⟩ := hgives
    rw [settingOf_of_gives hm hw] at h
    cases hcause : convert w with
    | ok b =>
      rw [hcause] at h
      cases h
    | error cause =>
      rw [hcause] at h
      cases h
      exact .intro hw hcause (hm.isValueError_valueError _) (hm.message?_valueError _)
  · rw [settingOf_of_missing hm (not_exists.1 hgives)] at h
    cases h

/-- A setting for which the same values are given is found to the same effect. -/
theorem settingOf_congr {u : α} (h : ∀ w, m.Gives u name w ↔ m.Gives v name w) :
    settingOf convert default u name = settingOf convert default v name := by
  by_cases hgives : ∃ w, m.Gives v name w
  · obtain ⟨w, hw⟩ := hgives
    rw [settingOf_of_gives hm hw, settingOf_of_gives hm ((h w).2 hw)]
  · have hmissing (w : α) : ¬ m.Gives u name w := fun hw => hgives ⟨w, (h w).1 hw⟩
    rw [settingOf_of_missing hm (not_exists.1 hgives), settingOf_of_missing hm hmissing]

end Setting

/-! ## Both settings -/

section Settings

variable {v : α} {c : Config} {e : ε}

theorem settingsOf_eq_ok_iff :
    settingsOf v = .ok c ↔ ∃ allowed capacity,
      m.SettingIs m.SaysFlag false v "allow_unclosed_paren" allowed ∧
        m.SettingIs m.SaysCount 4096 v "cache_capacity" capacity ∧
        c = ⟨.ofAllowed allowed, capacity⟩ := by
  have hmode (allowed : Bool) : settingOf Host.flag false v Config.modeKey = .ok allowed ↔
      m.SettingIs m.SaysFlag false v "allow_unclosed_paren" allowed :=
    settingOf_eq_ok_iff hm hm.flag_eq_ok_iff
  have hcapacity (capacity : Nat) :
      settingOf Host.count defaultCacheCapacity v Config.capacityKey = .ok capacity ↔
        m.SettingIs m.SaysCount 4096 v "cache_capacity" capacity :=
    settingOf_eq_ok_iff hm hm.count_eq_ok_iff
  simp only [settingsOf, bind_eq_ok_iff, hmode, hcapacity]
  constructor
  · rintro ⟨allowed, hallowed, capacity, hcap, hc⟩
    cases hc
    exact ⟨allowed, capacity, hallowed, hcap, rfl⟩
  · rintro ⟨allowed, capacity, hallowed, hcap, rfl⟩
    exact ⟨allowed, hallowed, capacity, hcap, rfl⟩

theorem blames_of_settingsOf (h : settingsOf v = .error e) :
    m.BlamesSetting Host.flag v "allow_unclosed_paren" e ∨
      ∃ allowed, m.SettingIs m.SaysFlag false v "allow_unclosed_paren" allowed ∧
        m.BlamesSetting Host.count v "cache_capacity" e := by
  rw [settingsOf] at h
  cases hmode : settingOf Host.flag false v Config.modeKey with
  | error e' =>
    rw [hmode] at h
    cases h
    exact .inl (blamesSetting_of_settingOf hm hmode)
  | ok allowed =>
    rw [hmode, ok_bind] at h
    cases hcapacity : settingOf Host.count defaultCacheCapacity v Config.capacityKey with
    | error e' =>
      rw [hcapacity] at h
      cases h
      exact .inr ⟨allowed, (settingOf_eq_ok_iff hm hm.flag_eq_ok_iff).1 hmode,
        blamesSetting_of_settingOf hm hcapacity⟩
    | ok capacity =>
      rw [hcapacity] at h
      cases h

/-- Configurations that give the same settings are found to say the same. -/
theorem settingsOf_congr {w : α}
    (hmode : ∀ u, m.Gives w "allow_unclosed_paren" u ↔ m.Gives v "allow_unclosed_paren" u)
    (hcapacity : ∀ u, m.Gives w "cache_capacity" u ↔ m.Gives v "cache_capacity" u) :
    settingsOf w = settingsOf v := by
  have hallowed : settingOf Host.flag false w Config.modeKey =
      settingOf Host.flag false v Config.modeKey :=
    settingOf_congr hm hmode
  have hcount : settingOf Host.count defaultCacheCapacity w Config.capacityKey =
      settingOf Host.count defaultCacheCapacity v Config.capacityKey :=
    settingOf_congr hm hcapacity
  rw [settingsOf, settingsOf, hallowed, hcount]

end Settings

/-! ## The keys -/

section Keys

variable {key : α} {keys before : List α} {e : ε}

theorem checkKey_eq_ok_iff : checkKey key = .ok () ↔ m.IsSetting key := by
  simp only [checkKey, bind_eq_ok_iff, hm.text_eq_ok_iff]
  constructor
  · rintro ⟨name, hname, hknown⟩
    split at hknown
    next hsetting =>
      rcases (by simpa using hsetting : name = Config.modeKey ∨ name = Config.capacityKey) with
        rfl | rfl
      · exact .inl hname
      · exact .inr hname
    next => cases hknown
  · rintro (hname | hname)
    · exact ⟨_, hname, rfl⟩
    · exact ⟨_, hname, rfl⟩

theorem blamesKey_of_checkKey (h : checkKey key = .error e) : m.BlamesKey key e := by
  rw [checkKey] at h
  cases htext : Host.text key with
  | error e' =>
    rw [htext] at h
    cases h
    by_cases hkey : m.kind key = .text none
    · obtain ⟨he, hsubject⟩ := hm.isValueError_of_text htext hkey
      exact .encoding hkey he hsubject
    · have hnone (characters? : Option String) : m.kind key ≠ .text characters? := by
        intro hcharacters
        cases characters? with
        | none => exact hkey hcharacters
        | some name => cases htext.symm.trans ((hm.text_eq_ok_iff key name).2 hcharacters)
      exact .type hnone (hm.isTypeError_of_text htext hnone)
  | ok name =>
    rw [htext, ok_bind] at h
    split at h
    next => cases h
    next =>
      cases h
      exact .unknown ((hm.text_eq_ok_iff key name).1 htext) (hm.isValueError_valueError _)
        (hm.message?_valueError _)

theorem exists_error_of_not_isSetting (h : ¬ m.IsSetting key) :
    ∃ e, checkKey key = .error e ∧ m.BlamesKey key e := by
  cases hcheck : checkKey key with
  | error e => exact ⟨e, rfl, blamesKey_of_checkKey hm hcheck⟩
  | ok => exact absurd ((checkKey_eq_ok_iff hm).1 hcheck) h

theorem checkKeys_eq_ok_iff : checkKeys keys = .ok () ↔ ∀ key ∈ keys, m.IsSetting key := by
  induction keys with
  | nil => simp [checkKeys]
  | cons key rest ih =>
    rw [List.forall_mem_cons, ← checkKey_eq_ok_iff hm, ← ih, checkKeys, bind_eq_ok_iff]
    exact ⟨fun ⟨_, h⟩ => h, fun h => ⟨(), h⟩⟩

/-- The first key that is no setting decides. -/
theorem checkKeys_of_first (hbefore : ∀ k ∈ before, m.IsSetting k) (hkey : checkKey key = .error e)
    (after : List α) : checkKeys (before ++ key :: after) = .error e := by
  induction before with
  | nil => rw [List.nil_append, checkKeys, hkey, error_bind]
  | cons k before ih =>
    obtain ⟨hk, hbefore⟩ := List.forall_mem_cons.1 hbefore
    rw [List.cons_append, checkKeys, (checkKey_eq_ok_iff hm).2 hk, ok_bind, ih hbefore]

theorem exists_first_of_checkKeys (h : checkKeys keys = .error e) :
    ∃ before key after, keys = before ++ key :: after ∧ (∀ k ∈ before, m.IsSetting k) ∧
      checkKey key = .error e := by
  induction keys with
  | nil => cases h
  | cons k rest ih =>
    cases hk : checkKey k with
    | error e' =>
      rw [checkKeys, hk] at h
      cases h
      exact ⟨[], k, rest, rfl, by simp, hk⟩
    | ok =>
      rw [checkKeys, hk, ok_bind] at h
      obtain ⟨before, key, after, rfl, hbefore, hkey⟩ := ih h
      exact ⟨k :: before, key, after, rfl,
        List.forall_mem_cons.2 ⟨(checkKey_eq_ok_iff hm).1 hk, hbefore⟩, hkey⟩

end Keys

/-! ## The whole value -/

section Configuration

variable {v : α} {c : Config} {e : ε}

theorem hasOnlySettings_iff :
    m.HasOnlySettings v ↔ checkKeys ((Host.keys? v).getD []) = .ok () := by
  rw [checkKeys_eq_ok_iff hm, HasOnlySettings]
  cases Host.keys? v <;> simp

theorem configOf_of_hasOnlySettings (h : m.HasOnlySettings v) : configOf v = settingsOf v := by
  rw [configOf, (hasOnlySettings_iff hm).1 h, ok_bind]

/-- A dictionary is there. -/
theorem kind_ne_absent_of_keys? {keys : List α} (h : Host.keys? v = some keys) :
    m.kind v ≠ .absent := by
  rw [(hm.isSome_keys?_iff v).1 (by rw [h]; rfl)]
  simp

theorem configArgument_of_present (h : m.kind v ≠ .absent) :
    configArgument (some v) = configOf v :=
  if_neg fun hv => h ((hm.isAbsent_iff v).1 hv)

theorem configArgument_eq_ok_iff : configArgument (some v) = .ok c ↔ m.Describes v c := by
  by_cases hv : m.kind v = .absent
  · have hdefault : configArgument (some v) = .ok ⟨.strict, 4096⟩ :=
      if_pos ((hm.isAbsent_iff v).2 hv)
    rw [hdefault]
    constructor
    · rintro ⟨⟩
      exact .absent hv
    · intro h
      cases h with
      | absent => rfl
      | settings hpresent => exact absurd hv hpresent
  · rw [configArgument_of_present hm hv, configOf, bind_eq_ok_iff]
    simp only [← hasOnlySettings_iff hm, settingsOf_eq_ok_iff hm]
    constructor
    · rintro ⟨⟨⟩, hkeys, allowed, capacity, hmode, hcapacity, rfl⟩
      exact .settings hv hkeys hmode hcapacity
    · intro h
      cases h with
      | absent habsent => exact absurd habsent hv
      | settings _ hkeys hmode hcapacity =>
        exact ⟨(), hkeys, _, _, hmode, hcapacity, rfl⟩

theorem refuses_of_configArgument (h : configArgument (some v) = .error e) : m.Refuses v e := by
  by_cases hv : m.kind v = .absent
  · have hdefault : configArgument (some v) = .ok ⟨.strict, 4096⟩ :=
      if_pos ((hm.isAbsent_iff v).2 hv)
    cases hdefault.symm.trans h
  · rw [configArgument_of_present hm hv, configOf] at h
    cases hcheck : checkKeys ((Host.keys? v).getD []) with
    | error e' =>
      rw [hcheck] at h
      cases h
      obtain ⟨before, key, after, hkeys, hbefore, hkey⟩ := exists_first_of_checkKeys hm hcheck
      have hsetting : ¬ m.IsSetting key := by
        intro hsetting
        rw [(checkKey_eq_ok_iff hm).2 hsetting] at hkey
        cases hkey
      have hdict : Host.keys? v = some (before ++ key :: after) := by
        cases hv : Host.keys? v with
        | none => simp [hv] at hkeys
        | some keys => rw [← hkeys, hv, Option.getD_some]
      exact .key hdict hbefore hsetting (blamesKey_of_checkKey hm hkey)
    | ok =>
      rw [hcheck, ok_bind] at h
      have hkeys := (hasOnlySettings_iff hm).2 hcheck
      rcases blames_of_settingsOf hm h with hmode | ⟨allowed, hmode, hcapacity⟩
      · exact .mode hkeys hmode
      · exact .capacity hkeys hmode hcapacity

end Configuration

end Meaning

/-! ## The call -/

section InitConfig

variable [Exceptions ε] {m : Meaning α ε}

theorem initConfig_of_ok (s : Session) {v : α} {c : Config} (h : configArgument (some v) = .ok c) :
    initConfig s (some v) = ⟨.ok (), (s.install c).state, (s.install c).events⟩ := by
  rw [initConfig, h]

theorem initConfig_of_error (s : Session) {v : α} {e : ε}
    (h : configArgument (some v) = .error e) : initConfig s (some v) = ⟨.error e, s, []⟩ := by
  rw [initConfig, h]

end InitConfig

end RecordFilter.Scripting
