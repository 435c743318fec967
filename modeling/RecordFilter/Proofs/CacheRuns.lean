import Mathlib.Control.Monad.Basic
import RecordFilter.Cache

/-!
# Runs of a cache

A filter that is kept is handed out without a look at the mode of the cache, so the answer is right
only if the mode is still the one in which the filter was parsed. `Cache.Sound` says so of all that
is kept, and that it is no more than the capacity allows. Every call keeps it, and so does every run
of calls. A sound cache cannot be told from the parser: it answers every text with what the text
stands for in the mode that was set last.
-/

namespace RecordFilter

namespace Cache

/-- The settings of the cache. -/
def settings (cache : Cache) : Config :=
  ⟨cache.mode, cache.capacity⟩

/-- What is kept is what its text stands for, and it is no more than there is room for. -/
structure Sound (cache : Cache) : Prop where
  parsed : ∀ {filter : String} {kept : ParsedFilter},
    cache.entries[filter]? = some kept → parse cache.mode filter = .ok kept.expr
  size_le : cache.size ≤ cache.capacity

/-- What can be asked of a cache. -/
inductive Call where
  | get (filter : String)
  | reset (capacity : Nat) (mode : ParseMode)
  | clear

/-- The settings that the call changes those of the cache to, if it does. -/
def Call.settings? : Call → Option Config
  | .get _ => none
  | .reset capacity mode => some ⟨mode, capacity⟩
  | .clear => none

/-- The cache after a call. -/
def after (cache : Cache) : Call → Cache
  | .get filter => (cache.get filter).state
  | .reset capacity mode => cache.reset capacity mode
  | .clear => cache.clear

/-- The cache after calls made one after another. -/
def afterAll (cache : Cache) (calls : List Call) : Cache :=
  calls.foldl after cache

/-- The settings after the calls, if they were `initial` before. -/
def lastSettings (initial : Config) (calls : List Call) : Config :=
  (calls.filterMap Call.settings?).getLastD initial

@[simp] theorem afterAll_nil (cache : Cache) : cache.afterAll [] = cache := rfl

@[simp] theorem afterAll_cons (cache : Cache) (call : Call) (calls : List Call) :
    cache.afterAll (call :: calls) = (cache.after call).afterAll calls := rfl

@[simp] theorem lastSettings_nil (initial : Config) : lastSettings initial [] = initial := rfl

@[simp] theorem lastSettings_cons (initial : Config) (call : Call) (calls : List Call) :
    lastSettings initial (call :: calls) = lastSettings (call.settings?.getD initial) calls := by
  cases h : call.settings? with
  | none => rw [lastSettings, List.filterMap_cons_none h]; rfl
  | some c => rw [lastSettings, List.filterMap_cons_some h, List.getLastD_cons]; rfl

@[simp] theorem settings_empty (capacity : Nat) (mode : ParseMode) :
    (empty capacity mode).settings = ⟨mode, capacity⟩ := rfl

@[simp] theorem settings_clear (cache : Cache) : cache.clear.settings = cache.settings := rfl

@[simp] theorem settings_makeRoom (cache : Cache) : cache.makeRoom.settings = cache.settings := by
  by_cases h : cache.isFull = true
  · simp [makeRoom, h]
  · simp [makeRoom, h]

@[simp] theorem settings_store (cache : Cache) (parsedIn : ParseMode) (filter : String)
    (parsed : ParsedFilter) : (cache.store parsedIn filter parsed).settings = cache.settings := by
  by_cases h : cache.keeps parsedIn = true
  · rw [store, if_pos h]
    exact settings_makeRoom cache
  · rw [store, if_neg h]

/-! ## The ways a request is served -/

theorem miss_of_error {cache : Cache} {filter : String} {e : FilterError}
    (h : parse cache.mode filter = .error e) :
    cache.miss filter = ⟨.error e, cache, parseEvents filter⟩ := by
  simp [miss, h]

theorem miss_of_ok {cache : Cache} {filter : String} {expr : Expr}
    (h : parse cache.mode filter = .ok expr) :
    cache.miss filter = ⟨.ok ⟨expr, cache.nextSerial⟩,
      { cache.store cache.mode filter ⟨expr, cache.nextSerial⟩ with
        nextSerial := cache.nextSerial + 1 },
      parseEvents filter ++ cache.storeEvents cache.mode⟩ := by
  simp [miss, h]

/-- A request finds the filter, or the filter cannot be parsed and the cache stays as it is, or the
filter is parsed and taken in. -/
theorem get_cases (cache : Cache) (filter : String) :
    (∃ kept, cache.entries[filter]? = some kept ∧ cache.get filter = ⟨.ok kept, cache, []⟩) ∨
    (∃ e, cache.entries[filter]? = none ∧ parse cache.mode filter = .error e ∧
      cache.get filter = ⟨.error e, cache, parseEvents filter⟩) ∨
    ∃ expr, cache.entries[filter]? = none ∧ parse cache.mode filter = .ok expr ∧
      cache.get filter = ⟨.ok ⟨expr, cache.nextSerial⟩,
        { cache.store cache.mode filter ⟨expr, cache.nextSerial⟩ with
          nextSerial := cache.nextSerial + 1 },
        parseEvents filter ++ cache.storeEvents cache.mode⟩ := by
  cases hk : cache.entries[filter]? with
  | some kept => exact .inl ⟨kept, rfl, get_of_some hk⟩
  | none =>
    cases hp : parse cache.mode filter with
    | error e => exact .inr (.inl ⟨e, rfl, rfl, (get_of_none hk).trans (miss_of_error hp)⟩)
    | ok expr => exact .inr (.inr ⟨expr, rfl, rfl, (get_of_none hk).trans (miss_of_ok hp)⟩)

/-- A filter that cannot be parsed leaves the cache as it is. -/
theorem state_get_of_error {cache : Cache} {filter : String} {e : FilterError}
    (h : (cache.get filter).answer = .error e) : (cache.get filter).state = cache := by
  obtain ⟨kept, -, hget⟩ | ⟨e', -, -, hget⟩ | ⟨expr, -, -, hget⟩ := cache.get_cases filter
  · simp [hget] at h
  · rw [hget]
  · simp [hget] at h

/-- A filter that has just been parsed is kept, if anything is. -/
theorem getElem?_get_of_ok {cache : Cache} {filter : String} {expr : Expr}
    (hcapacity : cache.capacity ≠ 0) (hk : cache.entries[filter]? = none)
    (hp : parse cache.mode filter = .ok expr) :
    (cache.get filter).state.entries[filter]? = some ⟨expr, cache.nextSerial⟩ := by
  have hkeeps : cache.keeps cache.mode = true := by simp [keeps, hcapacity]
  rw [get_of_none hk, miss_of_ok hp, store, if_pos hkeeps]
  exact Std.HashMap.getElem?_insert_self

/-! ## What one call preserves -/

theorem Sound.of_entries_eq_empty {cache : Cache} (h : cache.entries = ∅) : cache.Sound where
  parsed hk := by simp [h] at hk
  size_le := by simp [size, h]

theorem Sound.empty (capacity : Nat) (mode : ParseMode) : (empty capacity mode).Sound :=
  of_entries_eq_empty rfl

theorem Sound.clear (cache : Cache) : cache.clear.Sound :=
  of_entries_eq_empty rfl

theorem Sound.reset (cache : Cache) (capacity : Nat) (mode : ParseMode) :
    (cache.reset capacity mode).Sound :=
  of_entries_eq_empty rfl

theorem Sound.makeRoom {cache : Cache} (h : cache.Sound) : cache.makeRoom.Sound := by
  by_cases hfull : cache.isFull = true
  · rw [Cache.makeRoom, if_pos hfull]
    exact Sound.clear cache
  · rw [Cache.makeRoom, if_neg hfull]
    exact h

/-- Once room has been made, there is room. -/
theorem size_makeRoom_lt {cache : Cache} (h : cache.capacity ≠ 0) :
    cache.makeRoom.size < cache.capacity := by
  by_cases hfull : cache.isFull = true
  · rw [makeRoom, if_pos hfull, size_clear]
    exact Nat.pos_of_ne_zero h
  · rw [makeRoom, if_neg hfull]
    simpa [isFull] using hfull

theorem capacity_makeRoom (cache : Cache) : cache.makeRoom.capacity = cache.capacity :=
  congrArg Config.cacheCapacity (settings_makeRoom cache)

theorem mode_makeRoom (cache : Cache) : cache.makeRoom.mode = cache.mode :=
  congrArg Config.mode (settings_makeRoom cache)

/-- A filter may be taken in whatever has happened since it was parsed: one that was parsed in
another mode is not kept. -/
theorem Sound.store {cache : Cache} (h : cache.Sound) {parsedIn : ParseMode} {filter : String}
    {parsed : ParsedFilter} (hp : parse parsedIn filter = .ok parsed.expr) :
    (cache.store parsedIn filter parsed).Sound := by
  by_cases hkeeps : cache.keeps parsedIn = true
  · have hcond : cache.capacity ≠ 0 ∧ cache.mode = parsedIn := by simpa [keeps] using hkeeps
    rw [Cache.store, if_pos hkeeps]
    refine ⟨fun {text kept} hk => ?_, ?_⟩
    · rw [Std.HashMap.getElem?_insert] at hk
      by_cases heq : filter = text
      · -- the mode of the cache is still the one in which this filter was parsed
        subst heq
        have hkept : parsed = kept := by simpa using hk
        show parse cache.makeRoom.mode filter = .ok kept.expr
        rw [mode_makeRoom, hcond.2, ← hkept, hp]
      · exact h.makeRoom.parsed (by simpa [heq] using hk)
    · have hsize := Std.HashMap.size_insert_le (m := cache.makeRoom.entries) (k := filter)
        (v := parsed)
      have hroom := size_makeRoom_lt hcond.1
      show (cache.makeRoom.entries.insert filter parsed).size ≤ cache.makeRoom.capacity
      rw [capacity_makeRoom]
      exact Nat.le_trans hsize hroom
  · rw [Cache.store, if_neg hkeeps]
    exact h

theorem Sound.get {cache : Cache} (h : cache.Sound) (filter : String) :
    (cache.get filter).state.Sound := by
  obtain ⟨kept, -, hget⟩ | ⟨e, -, -, hget⟩ | ⟨expr, -, hp, hget⟩ := cache.get_cases filter
  · rw [hget]
    exact h
  · rw [hget]
    exact h
  · have hstored : (cache.store cache.mode filter ⟨expr, cache.nextSerial⟩).Sound := h.store hp
    rw [hget]
    exact ⟨hstored.parsed, hstored.size_le⟩

theorem Sound.after {cache : Cache} (h : cache.Sound) (call : Call) : (cache.after call).Sound := by
  cases call with
  | get filter => exact h.get filter
  | reset capacity mode => exact Sound.reset cache capacity mode
  | clear => exact Sound.clear cache

theorem settings_get (cache : Cache) (filter : String) :
    (cache.get filter).state.settings = cache.settings := by
  obtain ⟨kept, -, hget⟩ | ⟨e, -, -, hget⟩ | ⟨expr, -, -, hget⟩ := cache.get_cases filter
  · rw [hget]
  · rw [hget]
  · rw [hget]
    exact settings_store cache cache.mode filter ⟨expr, cache.nextSerial⟩

theorem settings_after (cache : Cache) (call : Call) :
    (cache.after call).settings = call.settings?.getD cache.settings := by
  cases call with
  | get filter => exact settings_get cache filter
  | reset capacity mode => rfl
  | clear => rfl

/-! ## What a run preserves -/

theorem Sound.afterAll {cache : Cache} (h : cache.Sound) (calls : List Call) :
    (cache.afterAll calls).Sound := by
  induction calls generalizing cache with
  | nil => exact h
  | cons call rest ih => exact ih (h.after call)

/-- The settings are those of the last reset. -/
theorem settings_afterAll (cache : Cache) (calls : List Call) :
    (cache.afterAll calls).settings = lastSettings cache.settings calls := by
  induction calls generalizing cache with
  | nil => rfl
  | cons call rest ih => rw [afterAll_cons, ih, settings_after, lastSettings_cons]

/-- A sound cache answers as the parser does, whether it keeps the filter or not. -/
theorem Sound.answer_get {cache : Cache} (h : cache.Sound) (filter : String) :
    (cache.get filter).answer.map (·.expr) = parse cache.mode filter := by
  obtain ⟨kept, hk, hget⟩ | ⟨e, -, hp, hget⟩ | ⟨expr, -, hp, hget⟩ := cache.get_cases filter
  · rw [hget, h.parsed hk]
    rfl
  · rw [hget, hp]
    rfl
  · rw [hget, hp]
    rfl

/-- Whatever has been asked of a cache before, it keeps under a text only what the text stands for
in the mode set last, it keeps no more than the capacity set last, and it answers as the parser
does. A filter that cannot be parsed leaves it as it is. -/
theorem transparent_afterAll (capacity : Nat) (mode : ParseMode) (calls : List Call) :
    let cache := (empty capacity mode).afterAll calls
    let now := lastSettings ⟨mode, capacity⟩ calls
    cache.settings = now ∧
    (∀ filter kept, cache.entries[filter]? = some kept →
      parse now.mode filter = .ok kept.expr) ∧
    cache.size ≤ now.cacheCapacity ∧
    (∀ filter, (cache.get filter).answer.map (·.expr) = parse now.mode filter) ∧
    ∀ filter e, (cache.get filter).answer = .error e → (cache.get filter).state = cache := by
  intro cache now
  have hsound : cache.Sound := (Sound.empty capacity mode).afterAll calls
  have hsettings : cache.settings = now := settings_afterAll (empty capacity mode) calls
  have hmode : cache.mode = now.mode := congrArg Config.mode hsettings
  have hcapacity : cache.capacity = now.cacheCapacity := congrArg Config.cacheCapacity hsettings
  refine ⟨hsettings, ?_, ?_, ?_, ?_⟩
  · intro filter kept hk
    rw [← hmode]
    exact hsound.parsed hk
  · rw [← hcapacity]
    exact hsound.size_le
  · intro filter
    rw [← hmode]
    exact hsound.answer_get filter
  · intro filter e h
    exact state_get_of_error h

/-- A filter that is left open is kept by a permissive cache, and is refused again once the cache
has been reset to be strict. -/
theorem transparent_afterAll_unclosed :
    let permissive := (empty 1 .permissive).afterAll [.get "(a = 1"]
    let strict := (empty 1 .permissive).afterAll [.get "(a = 1", .reset 1 .strict]
    let parsed : Expr := .condition ⟨"a", .equals, "1"⟩
    permissive.entries["(a = 1"]? = some ⟨parsed, 0⟩ ∧
    parse .permissive "(a = 1" = .ok parsed ∧
    (strict.get "(a = 1").answer = .error (.parse (.unclosedParen 0)) ∧
    (strict.get "(a = 1").state = strict := by
  intro permissive strict parsed
  have hparse : parse .permissive "(a = 1" = .ok parsed := by decide +kernel
  have hrefused : parse .strict "(a = 1" = .error (.parse (.unclosedParen 0)) := by
    decide +kernel
  have hkept : permissive.entries["(a = 1"]? = some ⟨parsed, 0⟩ :=
    getElem?_get_of_ok Nat.one_ne_zero (by simp [empty]) hparse
  have hfails : (strict.get "(a = 1").answer = .error (.parse (.unclosedParen 0)) := by
    have hget : strict.get "(a = 1" = strict.miss "(a = 1" :=
      get_of_none (by simp [strict, after, reset, clear])
    have hmiss : strict.miss "(a = 1" = ⟨.error (.parse (.unclosedParen 0)), strict, _⟩ :=
      miss_of_error hrefused
    rw [hget, hmiss]
  exact ⟨hkept,
    (transparent_afterAll 1 .permissive [.get "(a = 1"]).2.1 "(a = 1" ⟨parsed, 0⟩ hkept, hfails,
    (transparent_afterAll 1 .permissive [.get "(a = 1", .reset 1 .strict]).2.2.2.2 "(a = 1"
      (.parse (.unclosedParen 0)) hfails⟩

end Cache

end RecordFilter
