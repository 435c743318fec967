import RecordFilter.Proofs.Outcome
import RecordFilter.Proofs.WaysOfAsking

/-!
# Refused requests

A request is refused if it would install what is no configuration, or asks about what is no filter
(`Session.Request.IsUnfit`). A refused request changes nothing: the configuration and the cache are
what they were, and whatever is asked afterwards is answered as if the request had not been made.

The one trace that a refused request can leave is that the cache has been created, if it had not
been before. `SameState` leaves that open, and nobody can find it out: two sessions in the same
state give one answer to every request, report the same, and are in the same state again afterwards
(`SameState.respond`).
-/

namespace RecordFilter

namespace Reply

variable {σ α β : Type}

/-- The reply with another answer. -/
def map (f : α → β) (reply : Reply σ α) : Reply σ β :=
  ⟨f reply.answer, reply.state, reply.events⟩

/-- The replies say the same and report the same, and leave states that are related. -/
structure Matches (R : σ → σ → Prop) (x y : Reply σ α) : Prop where
  answer_eq : x.answer = y.answer
  events_eq : x.events = y.events
  state : R x.state y.state

theorem Matches.map {R : σ → σ → Prop} {x y : Reply σ α} (h : x.Matches R y) (f : α → β) :
    (x.map f).Matches R (y.map f) :=
  ⟨congrArg f h.answer_eq, h.events_eq, h.state⟩

end Reply

namespace Session

/-- What a session answers a request. -/
inductive Answer where
  | done
  | installed (config? : Option Config)
  | parsed (outcome : Except FilterError ParsedFilter)
  | checked (outcome : Except FilterError Bool)
  | filtered (outcome : Except FilterError (List Nat))
  | size (n : Nat)

/-- The answer says that there is nothing to answer. -/
def Answer.IsRefusal : Answer → Prop
  | .installed config? => config? = none
  | .parsed outcome => ∃ e, outcome = .error e
  | .checked outcome => ∃ e, outcome = .error e
  | .filtered outcome => ∃ e, outcome = .error e
  | _ => False

/-- The request would install what is no configuration, or asks about what is no filter in the
mode. -/
def Request.IsUnfit (mode : ParseMode) : Request → Prop
  | .installJson text => Config.ofJsonText? text = none
  | .get filter => ∃ e, parse mode filter = .error e
  | @Request.check _ _ filter _ => ∃ e, parse mode filter = .error e
  | @Request.filterRecords _ _ filter _ => ∃ e, parse mode filter = .error e
  | _ => False

/-- What comes of a request. -/
def respond (s : Session) : Request → Reply Session Answer
  | .install c => (s.install c).map fun _ => .done
  | .installJson text => (s.installJson text).map .installed
  | .get filter => (s.get filter).map .parsed
  | @Request.check _ _ filter record => (s.check filter record).map .checked
  | @Request.filterRecords _ _ filter records => (s.filterRecords filter records).map .filtered
  | .clearCache => ⟨.done, s.clearCache, []⟩
  | .cacheSize => s.cacheSize.map .size

/-- What is answered and reported on requests made one after another. -/
def transcript (s : Session) : List Request → List (Answer × List Event)
  | [] => []
  | q :: rest => ((s.respond q).answer, (s.respond q).events) :: (s.after q).transcript rest

/-- The same configuration has been installed in both sessions, or none in either, and they have one
cache: its settings, every filter that it keeps, and the next serial number. -/
structure SameState (s t : Session) : Prop where
  installed_eq : s.installed = t.installed
  cache_eq : s.cache = t.cache

theorem state_respond (s : Session) (q : Request) : (s.respond q).state = s.after q := by
  cases q <;> rfl

/-! ## Sessions in the same state -/

section SameState

variable {s t : Session} (h : s.SameState t)
include h

theorem SameState.withCache (cache : Cache) : (s.withCache cache).SameState (t.withCache cache) :=
  ⟨h.installed_eq, rfl⟩

theorem SameState.get (filter : String) :
    (s.get filter).Matches SameState (t.get filter) := by
  rw [Session.get, Session.get, h.cache_eq]
  exact ⟨rfl, rfl, h.withCache _⟩

theorem SameState.check {ρ : Type} [Record ρ] (filter : String) (record : ρ) :
    (s.check filter record).Matches SameState (t.check filter record) := by
  have hget := h.get filter
  by_cases hempty : filter = ""
  · rw [Session.check, Session.check, if_pos hempty, if_pos hempty]
    exact ⟨rfl, rfl, h⟩
  · rw [Session.check, Session.check, if_neg hempty, if_neg hempty]
    simp only [hget.answer_eq, hget.events_eq]
    exact ⟨rfl, rfl, hget.state⟩

theorem SameState.filterRecords {ρ : Type} [Record ρ] (filter : String) (records : List ρ) :
    (s.filterRecords filter records).Matches SameState (t.filterRecords filter records) := by
  have hget := h.get filter
  by_cases hempty : filter = ""
  · rw [Session.filterRecords, Session.filterRecords, if_pos hempty, if_pos hempty]
    exact ⟨rfl, rfl, h⟩
  · rw [Session.filterRecords, Session.filterRecords, if_neg hempty, if_neg hempty]
    simp only [hget.answer_eq, hget.events_eq]
    cases (t.get filter).answer with
    | error e => exact ⟨rfl, rfl, hget.state⟩
    | ok parsed => exact ⟨rfl, rfl, hget.state⟩

omit h in
/-- The cache is reset as it was before the configuration was published. -/
theorem cache_install (s : Session) (c : Config) :
    (s.install c).state.cache = s.cache.reset c.cacheCapacity c.mode := by
  -- a cache that is still to be created would have other settings once `c` is published, but the
  -- reset sets them in either case
  obtain ⟨installed, _ | cache⟩ := s <;> rfl

theorem SameState.install (c : Config) : (s.install c).Matches SameState (t.install c) := by
  refine ⟨rfl, rfl, rfl, ?_⟩
  rw [cache_install, cache_install, h.cache_eq]

theorem SameState.installJson (text : String) :
    (s.installJson text).Matches SameState (t.installJson text) := by
  rw [Session.installJson, Session.installJson]
  cases Config.ofJsonText? text with
  | none => exact ⟨rfl, rfl, h⟩
  | some c => exact ⟨rfl, rfl, (h.install c).state⟩

/-- Sessions in the same state cannot be told apart by a request. -/
theorem SameState.respond (q : Request) : (s.respond q).Matches SameState (t.respond q) := by
  cases q with
  | install c => exact (h.install c).map fun _ => Answer.done
  | installJson text => exact (h.installJson text).map _
  | get filter => exact (h.get filter).map _
  | check filter record => exact (h.check filter record).map _
  | filterRecords filter records => exact (h.filterRecords filter records).map _
  | clearCache =>
    refine ⟨rfl, rfl, ?_⟩
    show s.clearCache.SameState t.clearCache
    rw [clearCache, clearCache, h.cache_eq]
    exact h.withCache _
  | cacheSize =>
    have hsize : s.cacheSize.Matches SameState t.cacheSize := by
      rw [cacheSize, cacheSize, h.cache_eq]
      exact ⟨rfl, rfl, h.withCache _⟩
    exact hsize.map _

theorem SameState.after (q : Request) : (s.after q).SameState (t.after q) := by
  rw [← state_respond, ← state_respond]
  exact (h.respond q).state

theorem SameState.afterAll (requests : List Request) :
    (s.afterAll requests).SameState (t.afterAll requests) := by
  induction requests generalizing s t with
  | nil => exact h
  | cons q rest ih => exact ih (h.after q)

theorem SameState.transcript_eq (requests : List Request) :
    s.transcript requests = t.transcript requests := by
  induction requests generalizing s t with
  | nil => rfl
  | cons q rest ih =>
    obtain ⟨hanswer, hevents, -⟩ := h.respond q
    rw [transcript, transcript, hanswer, hevents, ih (h.after q)]

end SameState

/-! ## What is refused, and what it changes -/

theorem sameState_withCache (s : Session) : (s.withCache s.cache).SameState s :=
  ⟨rfl, rfl⟩

theorem withCache_cache {s : Session} (h : s.created.isSome = true) :
    s.withCache s.cache = s := by
  obtain ⟨installed, _ | cache⟩ := s
  · cases h
  · rfl

/-- A session refuses what is unfit in the active mode, and nothing else. -/
theorem InStep.isRefusal_respond_iff {s : Session} (h : s.InStep) (q : Request) :
    (s.respond q).answer.IsRefusal ↔ q.IsUnfit s.active.mode := by
  cases q with
  | install c => exact Iff.rfl
  | installJson text =>
    show (s.installJson text).answer = none ↔ Config.ofJsonText? text = none
    rw [installJson]
    cases Config.ofJsonText? text with
    | none => simp
    | some c => simp
  | get filter =>
    show (∃ e, (s.get filter).answer = .error e) ↔ ∃ e, parse s.active.mode filter = .error e
    simp only [← h.answer_get, map_eq_error_iff]
  | check filter record =>
    show (∃ e, (s.check filter record).answer = .error e) ↔ _
    simp only [h.answer_check_eq, map_eq_error_iff]
    rfl
  | filterRecords filter records =>
    show (∃ e, (s.filterRecords filter records).answer = .error e) ↔ _
    simp only [h.answer_filterRecords_eq, map_eq_error_iff]
    rfl
  | clearCache => exact Iff.rfl
  | cacheSize => exact Iff.rfl

theorem InStep.state_get {s : Session} (h : s.InStep) {filter : String} {e : FilterError}
    (he : parse s.active.mode filter = .error e) :
    (s.get filter).state = s.withCache s.cache := by
  rw [← h.answer_get, map_eq_error_iff] at he
  exact congrArg s.withCache (Cache.state_get_of_error he)

/-- All that a refused request can do is create the cache. -/
theorem InStep.after_of_isUnfit {s : Session} (h : s.InStep) {q : Request}
    (hq : q.IsUnfit s.active.mode) : s.after q = s ∨ s.after q = s.withCache s.cache := by
  cases q with
  | install c => cases hq
  | installJson text =>
    have hnone : Config.ofJsonText? text = none := hq
    left
    rw [Session.after, Session.installJson, hnone]
  | get filter =>
    obtain ⟨e, he⟩ := hq
    exact .inr (h.state_get he)
  | check filter record =>
    obtain ⟨e, he⟩ := hq
    rw [Session.after, state_check, h.state_get he]
    exact ite_eq_or_eq _ _ _
  | filterRecords filter records =>
    obtain ⟨e, he⟩ := hq
    rw [Session.after, state_filterRecords, h.state_get he]
    exact ite_eq_or_eq _ _ _
  | clearCache => cases hq
  | cacheSize => cases hq

/-- Whatever has been asked of a session, it refuses what is no configuration and what asks about no
filter, and nothing else. It is then in the state it was in before, and all that is asked of it
afterwards is answered as if it had not been asked. -/
theorem afterAll_fresh_refused (requests : List Request) (q : Request) :
    let s := fresh.afterAll requests
    ((s.respond q).answer.IsRefusal ↔ q.IsUnfit s.active.mode) ∧
    ((s.respond q).answer.IsRefusal →
      (s.after q).SameState s ∧ (s.created.isSome = true → s.after q = s) ∧
      ∀ rest, (s.after q).transcript rest = s.transcript rest ∧
        ((s.after q).afterAll rest).SameState (s.afterAll rest)) := by
  intro s
  have hstep : s.InStep := InStep.fresh.afterAll requests
  refine ⟨hstep.isRefusal_respond_iff q, fun hrefused => ?_⟩
  have hafter := hstep.after_of_isUnfit ((hstep.isRefusal_respond_iff q).1 hrefused)
  have hsame : (s.after q).SameState s := by
    rcases hafter with hafter | hafter
    · rw [hafter]
      exact ⟨rfl, rfl⟩
    · rw [hafter]
      exact sameState_withCache s
  refine ⟨hsame, fun hcreated => ?_, fun rest => ⟨hsame.transcript_eq rest, hsame.afterAll rest⟩⟩
  rcases hafter with hafter | hafter
  · exact hafter
  · rw [hafter, withCache_cache hcreated]

/-- A cache with room for one filter, which it has, would be emptied by a filter that is new to it.
The filter is none, and the one that is kept is found again. -/
theorem afterAll_fresh_refused_full :
    let requests : List Request := [.install ⟨.strict, 1⟩, .get "a = 1"]
    let s := fresh.afterAll requests
    let rest : List Request := [.get "a = 1", .installJson "[0]", .cacheSize]
    (s.respond (.get "b =")).answer.IsRefusal ∧ s.after (.get "b =") = s ∧
    (s.after (.get "b =")).transcript rest = s.transcript rest := by
  intro requests s rest
  have hmode : s.active.mode = .strict := by
    rw [active, installed_afterAll]
    rfl
  have hunfit : parse .strict "b =" = .error (.parse (.missingValue 2)) := by decide +kernel
  obtain ⟨hiff, hunchanged⟩ := afterAll_fresh_refused requests (.get "b =")
  have hrefused : (s.respond (.get "b =")).answer.IsRefusal := by
    apply hiff.2
    show ∃ e, parse s.active.mode "b =" = .error e
    rw [hmode]
    exact ⟨_, hunfit⟩
  obtain ⟨-, heq, hrest⟩ := hunchanged hrefused
  exact ⟨hrefused, heq rfl, (hrest rest).1⟩

end Session

end RecordFilter
