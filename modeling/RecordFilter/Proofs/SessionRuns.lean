import RecordFilter.Proofs.CacheRuns
import RecordFilter.Proofs.Outcome
import RecordFilter.Session

/-!
# Runs of a session

The configuration and the cache of a session are two states. An installation changes the one and
then the other, and all else that is asked of a session leaves the configuration alone and does to
the cache what leaves its settings alone. So the two stay in step (`Session.InStep`): the cache has
the settings of the active configuration. As its cache is sound besides, a session answers as the
parser does in the active mode, and two sessions with one active configuration cannot be told apart
by what they answer, however they came to it.
-/

namespace RecordFilter

namespace Session

/-- What can be asked of a session. -/
inductive Request : Type 1 where
  | install (c : Config)
  | installJson (text : String)
  | get (filter : String)
  | check {ρ : Type} [Record ρ] (filter : String) (record : ρ)
  | filterRecords {ρ : Type} [Record ρ] (filter : String) (records : List ρ)
  | clearCache
  | cacheSize

/-- The configuration that the request installs, if it does. -/
def Request.installs? : Request → Option Config
  | .install c => some c
  | .installJson text => Config.ofJsonText? text
  | _ => none

/-- The session after a request. -/
def after (s : Session) : Request → Session
  | .install c => (s.install c).state
  | .installJson text => (s.installJson text).state
  | .get filter => (s.get filter).state
  | @Request.check _ _ filter record => (s.check filter record).state
  | @Request.filterRecords _ _ filter records => (s.filterRecords filter records).state
  | .clearCache => s.clearCache
  | .cacheSize => s.cacheSize.state

/-- The session after requests made one after another. -/
def afterAll (s : Session) (requests : List Request) : Session :=
  requests.foldl after s

/-- The configuration that the requests installed last, if they installed any. -/
def lastInstalled (requests : List Request) : Option Config :=
  (requests.filterMap Request.installs?).getLast?

/-- The cache has the settings of the active configuration, and is sound. -/
structure InStep (s : Session) : Prop where
  settings_eq : s.cache.settings = s.active
  sound : s.cache.Sound

/-- Two sessions answer every request for a filter in the same way. What a filter text stands for is
compared, not when it was parsed. -/
structure AnswersLike (s t : Session) : Prop where
  get : ∀ filter, (s.get filter).answer.map (·.expr) = (t.get filter).answer.map (·.expr)
  check : ∀ {ρ : Type} [Record ρ] (filter : String) (record : ρ),
    (s.check filter record).answer = (t.check filter record).answer
  filterRecords : ∀ {ρ : Type} [Record ρ] (filter : String) (records : List ρ),
    (s.filterRecords filter records).answer = (t.filterRecords filter records).answer

@[simp] theorem afterAll_nil (s : Session) : s.afterAll [] = s := rfl

@[simp] theorem afterAll_cons (s : Session) (q : Request) (rest : List Request) :
    s.afterAll (q :: rest) = (s.after q).afterAll rest := rfl

@[simp] theorem lastInstalled_nil : lastInstalled [] = none := rfl

theorem lastInstalled_cons (q : Request) (rest : List Request) :
    lastInstalled (q :: rest) = (lastInstalled rest).or q.installs? := by
  cases h : q.installs? with
  | none => simp [lastInstalled, List.filterMap_cons_none h]
  | some c =>
    rw [lastInstalled, List.filterMap_cons_some h, List.getLast?_cons]
    cases hlast : (rest.filterMap Request.installs?).getLast? with
    | none => simp [lastInstalled, hlast]
    | some d => simp [lastInstalled, hlast]

theorem isSome_lastInstalled_iff {requests : List Request} :
    (lastInstalled requests).isSome = true ↔ ∃ q ∈ requests, q.installs?.isSome = true := by
  induction requests with
  | nil => simp
  | cons q rest ih => simp [lastInstalled_cons, ih, or_comm]

/-! ## Requests that come down to getting the filter -/

section Filtering

variable {ρ : Type} [Record ρ]

theorem state_check (s : Session) (filter : String) (record : ρ) :
    (s.check filter record).state = if filter = "" then s else (s.get filter).state := by
  by_cases h : filter = ""
  · simp [check, h]
  · simp [check, h]

theorem answer_check (s : Session) (filter : String) (record : ρ) :
    (s.check filter record).answer =
      if filter = "" then .ok true else (s.get filter).answer.map (·.expr.eval record) := by
  by_cases h : filter = ""
  · simp [check, h]
  · simp [check, h]

theorem state_filterRecords (s : Session) (filter : String) (records : List ρ) :
    (s.filterRecords filter records).state = if filter = "" then s else (s.get filter).state := by
  by_cases h : filter = ""
  · simp [filterRecords, h]
  · cases hget : (s.get filter).answer with
    | error e => simp [filterRecords, h, hget]
    | ok parsed => simp [filterRecords, h, hget]

theorem answer_filterRecords (s : Session) (filter : String) (records : List ρ) :
    (s.filterRecords filter records).answer =
      if filter = "" then .ok (List.range records.length)
      else (s.get filter).answer.map (matchingIndices ·.expr records) := by
  by_cases h : filter = ""
  · simp [filterRecords, h]
  · cases hget : (s.get filter).answer with
    | error e => simp [filterRecords, h, hget, Except.map]
    | ok parsed => simp [filterRecords, h, hget, Except.map]

end Filtering

/-! ## What a request does to the two states -/

/-- A request installs a configuration, or it does nothing to either state, or it only makes calls
of the cache, and none that changes the settings. -/
theorem after_cases (s : Session) (q : Request) :
    (∃ c, q.installs? = some c ∧ s.after q = (s.install c).state) ∨
    q.installs? = none ∧ (s.after q = s ∨
      ∃ calls, calls.filterMap Cache.Call.settings? = [] ∧
        s.after q = s.withCache (s.cache.afterAll calls)) := by
  have hget (filter : String) : ∃ calls, calls.filterMap Cache.Call.settings? = [] ∧
      (s.get filter).state = s.withCache (s.cache.afterAll calls) :=
    ⟨[.get filter], rfl, rfl⟩
  cases q with
  | install c => exact .inl ⟨c, rfl, rfl⟩
  | installJson text =>
    cases h : Config.ofJsonText? text with
    | some c => exact .inl ⟨c, h, by simp [after, installJson, h]⟩
    | none => exact .inr ⟨h, .inl (by simp [after, installJson, h])⟩
  | get filter => exact .inr ⟨rfl, .inr (hget filter)⟩
  | check filter record =>
    -- the empty filter is answered without the cache
    refine .inr ⟨rfl, ?_⟩
    rw [after, state_check]
    split
    · exact .inl rfl
    · exact .inr (hget filter)
  | filterRecords filter records =>
    refine .inr ⟨rfl, ?_⟩
    rw [after, state_filterRecords]
    split
    · exact .inl rfl
    · exact .inr (hget filter)
  | clearCache => exact .inr ⟨rfl, .inr ⟨[.clear], rfl, rfl⟩⟩
  | cacheSize => exact .inr ⟨rfl, .inr ⟨[], rfl, rfl⟩⟩

theorem installed_after (s : Session) (q : Request) :
    (s.after q).installed = q.installs?.or s.installed := by
  obtain ⟨c, hq, hafter⟩ | ⟨hq, hafter | ⟨calls, -, hafter⟩⟩ := s.after_cases q
  · rw [hafter, hq]
    rfl
  · rw [hafter, hq]
    rfl
  · rw [hafter, hq]
    rfl

theorem installed_afterAll (s : Session) (requests : List Request) :
    (s.afterAll requests).installed = (lastInstalled requests).or s.installed := by
  induction requests generalizing s with
  | nil => rfl
  | cons q rest ih => rw [afterAll_cons, ih, installed_after, lastInstalled_cons, Option.or_assoc]

theorem InStep.fresh : fresh.InStep where
  settings_eq := rfl
  sound := by
    rw [cache_fresh]
    exact Cache.Sound.empty defaultCacheCapacity .strict

theorem InStep.install (s : Session) (c : Config) : (s.install c).state.InStep where
  settings_eq := rfl
  sound := Cache.Sound.reset (s.publish c).cache c.cacheCapacity c.mode

theorem InStep.withCache {s : Session} (h : s.InStep) {calls : List Cache.Call}
    (hcalls : calls.filterMap Cache.Call.settings? = []) :
    (s.withCache (s.cache.afterAll calls)).InStep where
  settings_eq := by
    rw [cache_withCache, active_withCache, Cache.settings_afterAll, Cache.lastSettings, hcalls]
    exact h.settings_eq
  sound := by
    rw [cache_withCache]
    exact h.sound.afterAll calls

theorem InStep.after {s : Session} (h : s.InStep) (q : Request) : (s.after q).InStep := by
  obtain ⟨c, -, hafter⟩ | ⟨-, hafter | ⟨calls, hcalls, hafter⟩⟩ := s.after_cases q
  · rw [hafter]
    exact InStep.install s c
  · rw [hafter]
    exact h
  · rw [hafter]
    exact h.withCache hcalls

theorem InStep.afterAll {s : Session} (h : s.InStep) (requests : List Request) :
    (s.afterAll requests).InStep := by
  induction requests generalizing s with
  | nil => exact h
  | cons q rest ih => exact ih (h.after q)

/-! ## What a session answers -/

theorem InStep.mode_eq {s : Session} (h : s.InStep) : s.cache.mode = s.active.mode :=
  congrArg Config.mode h.settings_eq

theorem InStep.capacity_eq {s : Session} (h : s.InStep) :
    s.cache.capacity = s.active.cacheCapacity :=
  congrArg Config.cacheCapacity h.settings_eq

theorem InStep.answer_get {s : Session} (h : s.InStep) (filter : String) :
    (s.get filter).answer.map (·.expr) = parse s.active.mode filter := by
  rw [← h.mode_eq]
  exact h.sound.answer_get filter

variable {ρ : Type} [Record ρ]

theorem InStep.answer_check {s : Session} (h : s.InStep) (filter : String) (record : ρ) :
    (s.check filter record).answer =
      if filter = "" then .ok true else (parse s.active.mode filter).map (·.eval record) := by
  rw [Session.answer_check, ← h.answer_get filter, map_map]

theorem InStep.answer_filterRecords {s : Session} (h : s.InStep) (filter : String)
    (records : List ρ) :
    (s.filterRecords filter records).answer =
      if filter = "" then .ok (List.range records.length)
      else (parse s.active.mode filter).map (matchingIndices · records) := by
  rw [Session.answer_filterRecords, ← h.answer_get filter, map_map]

/-- Sessions that are in step answer alike if they are in one mode, whatever they keep. -/
theorem InStep.answersLike {s t : Session} (hs : s.InStep) (ht : t.InStep)
    (hmode : s.active.mode = t.active.mode) : s.AnswersLike t where
  get filter := by rw [hs.answer_get, ht.answer_get, hmode]
  check filter record := by rw [hs.answer_check, ht.answer_check, hmode]
  filterRecords filter records := by rw [hs.answer_filterRecords, ht.answer_filterRecords, hmode]

/-- Whatever has been asked of a session, the active configuration is the one installed last, and
the cache has its settings. Every filter is answered by what its text stands for in the active mode,
so no two histories that end in one configuration can be told apart. -/
theorem afterAll_fresh_inStep (requests : List Request) :
    let s := fresh.afterAll requests
    s.active = (lastInstalled requests).getD {} ∧
    (s.isInitialized = true ↔ ∃ q ∈ requests, q.installs?.isSome = true) ∧
    s.cache.capacity = s.active.cacheCapacity ∧
    s.cache.mode = s.active.mode ∧
    s.cacheSize.answer ≤ s.active.cacheCapacity ∧
    (∀ filter, (s.get filter).answer.map (·.expr) = parse s.active.mode filter) ∧
    ∀ others, (fresh.afterAll others).active = s.active →
      (fresh.afterAll others).AnswersLike s := by
  intro s
  have hstep : s.InStep := InStep.fresh.afterAll requests
  have hinstalled : s.installed = lastInstalled requests :=
    (installed_afterAll fresh requests).trans (Option.or_none)
  refine ⟨?_, ?_, hstep.capacity_eq, hstep.mode_eq, ?_, hstep.answer_get, ?_⟩
  · rw [active, hinstalled]
  · rw [isInitialized, hinstalled]
    exact isSome_lastInstalled_iff
  · rw [← hstep.capacity_eq]
    exact hstep.sound.size_le
  · intro others hactive
    exact (InStep.fresh.afterAll others).answersLike hstep (congrArg Config.mode hactive)

/-- One session has been made permissive by a document, has kept a filter that is left open, and has
refused another document since. The other one has parsed strictly before it was made permissive. -/
theorem afterAll_fresh_inStep_two_histories :
    let requests : List Request := [.installJson "[true, 2]", .get "(a = 1", .installJson "[2]"]
    let others : List Request :=
      [.get "(a = 1", .install ⟨.strict, 0⟩, .install ⟨.permissive, 2⟩, .clearCache]
    (fresh.afterAll requests).active = ⟨.permissive, 2⟩ ∧
    (fresh.afterAll others).active = ⟨.permissive, 2⟩ ∧
    (fresh.afterAll others).AnswersLike (fresh.afterAll requests) := by
  intro requests others
  have haccepted : Config.ofJsonText? "[true, 2]" = some ⟨.permissive, 2⟩ := by
    decide +kernel
  have hrefused : Config.ofJsonText? "[2]" = none := by decide +kernel
  have hactive : (fresh.afterAll requests).active = ⟨.permissive, 2⟩ := by
    rw [(afterAll_fresh_inStep requests).1]
    simp [requests, lastInstalled_cons, Request.installs?, haccepted, hrefused]
  have hothers : (fresh.afterAll others).active = ⟨.permissive, 2⟩ := by
    rw [(afterAll_fresh_inStep others).1]
    rfl
  exact ⟨hactive, hothers,
    (afterAll_fresh_inStep requests).2.2.2.2.2.2 others (hothers.trans hactive.symm)⟩

end Session

end RecordFilter
