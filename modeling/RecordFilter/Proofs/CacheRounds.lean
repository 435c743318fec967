import Mathlib.Data.List.DropRight
import RecordFilter.Proofs.CacheRuns

/-!
# What a cache keeps, and for how long

Only the filters that are parsed anew count: one that is found, or that cannot be parsed, leaves
the cache as it is. They fall into rounds of as many as the capacity allows. The first of a round
finds the cache full and has it emptied, all of a round are kept until the next one begins, and
nothing else is (`Cache.Keeps`). So it takes no look at the cache to say what is in it: that is
`lastRound` of the filters that were parsed since the cache was last empty for another reason, which
is when it was made, reset or cleared.

Only one request in a run of them is looked at (`Cache.Accounts.get`); the run is an induction on
the calls.
-/

namespace RecordFilter

/-- The size of the full cache that the event reports to have been emptied, if it does. -/
def Event.clearedSize? : Event → Option Nat
  | .cacheFull size => some size
  | _ => none

namespace Cache

/-- Whether the call empties the cache whatever it holds. -/
def Call.restarts : Call → Bool
  | .get _ => false
  | .reset _ _ => true
  | .clear => true

/-- The calls up to the last one that restarts the cache. -/
def untilRestart (calls : List Call) : List Call :=
  calls.rdropWhile (!·.restarts)

/-- The calls after the last one that restarts the cache. -/
def sinceRestart (calls : List Call) : List Call :=
  calls.rtakeWhile (!·.restarts)

/-- The filter that the call parses anew, with its text: it is asked for, is not kept, and can be
parsed. -/
def miss? (cache : Cache) : Call → Option (String × ParsedFilter)
  | .get filter =>
    match cache.entries[filter]?, (cache.get filter).answer with
    | none, .ok parsed => some (filter, parsed)
    | _, _ => none
  | _ => none

/-- The filters that the calls parse anew, in order. -/
def misses (cache : Cache) : List Call → List (String × ParsedFilter)
  | [] => []
  | call :: calls => (cache.miss? call).toList ++ (cache.after call).misses calls

/-- The sizes of the full caches that the call reports to have been emptied. -/
def clearingsOf (cache : Cache) : Call → List Nat
  | .get filter => (cache.get filter).events.filterMap Event.clearedSize?
  | _ => []

/-- The sizes of the full caches that the calls report to have been emptied, in order. -/
def clearings (cache : Cache) : List Call → List Nat
  | [] => []
  | call :: calls => cache.clearingsOf call ++ (cache.after call).clearings calls

/-- The last round, if each round but the last is of `c`. -/
def lastRound {α : Type} (c : Nat) (xs : List α) : List α :=
  xs.drop ((xs.length - 1) / c * c)

/-- The round after one more, if a round is of `c`. -/
def nextRound {α : Type} (c : Nat) (round : List α) (x : α) : List α :=
  if c ≤ round.length then [x] else round ++ [x]

/-- What is kept is the filters of the round. -/
structure Keeps (cache : Cache) (round : List (String × ParsedFilter)) : Prop where
  getElem?_iff : ∀ filter kept, cache.entries[filter]? = some kept ↔ (filter, kept) ∈ round
  size_eq : cache.size = round.length

/-- The filters were parsed by the cache, each later than those before it, and no filter to come is
one of them. -/
structure Numbered (cache : Cache) (misses : List (String × ParsedFilter)) : Prop where
  parsed : ∀ x ∈ misses, parse cache.mode x.1 = .ok x.2.expr
  serial_lt : ∀ x ∈ misses, x.2.serial < cache.nextSerial
  increasing : misses.Pairwise (·.2.serial < ·.2.serial)

/-- The filters that have been parsed since the cache was last restarted, and the emptyings of a
full cache since, account for what it keeps. -/
structure Accounts (cache : Cache) (misses : List (String × ParsedFilter)) (clearings : List Nat) :
    Prop where
  numbered : cache.Numbered misses
  /-- If anything is kept, it is the last round. -/
  keeps : 0 < cache.capacity → cache.Keeps (lastRound cache.capacity misses)
  /-- The cache has been emptied before each round but the first, with a full round in it. -/
  clearings_eq :
    clearings = List.replicate ((misses.length - 1) / cache.capacity) cache.capacity

/-! ## Rounds -/

section Rounds

variable {α : Type} {c : Nat}

@[simp] theorem lastRound_nil : lastRound c ([] : List α) = [] := by
  simp [lastRound]

theorem length_lastRound (xs : List α) :
    (lastRound c xs).length = if xs.length = 0 then 0 else (xs.length - 1) % c + 1 := by
  have hsplit := Nat.div_add_mod' (xs.length - 1) c
  rw [lastRound, List.length_drop]
  by_cases h : xs.length = 0
  · rw [if_pos h, h, Nat.zero_sub]
  · rw [if_neg h]
    omega

theorem length_lastRound_le (hc : 0 < c) (xs : List α) : (lastRound c xs).length ≤ c := by
  rw [length_lastRound]
  split
  · exact Nat.zero_le c
  · exact Nat.mod_lt _ hc

/-- One more than `xs` are a round more if the last round is full. -/
theorem length_div (hc : 0 < c) (xs : List α) :
    xs.length / c = (xs.length - 1) / c + if c ≤ (lastRound c xs).length then 1 else 0 := by
  have hmod := Nat.mod_lt (xs.length - 1) hc
  have hsplit := Nat.div_add_mod' (xs.length - 1) c
  rw [length_lastRound, Nat.div_eq_iff hc, Nat.add_mul]
  by_cases hzero : xs.length = 0
  · rw [if_pos hzero, if_neg (by omega), hzero, Nat.zero_sub, Nat.zero_div]
    omega
  · -- the quotient goes up where the remainder before it is the last one, `c - 1`
    rw [if_neg hzero]
    split <;> omega

theorem lastRound_concat (hc : 0 < c) (xs : List α) (x : α) :
    lastRound c (xs ++ [x]) = nextRound c (lastRound c xs) x := by
  have hmod := Nat.mod_lt (xs.length - 1) hc
  have hsplit := Nat.div_add_mod' (xs.length - 1) c
  have hlength := length_lastRound (c := c) xs
  rw [nextRound, lastRound, List.length_append, List.length_singleton, Nat.add_sub_cancel,
    length_div hc]
  by_cases hfull : c ≤ (lastRound c xs).length
  · have hall : ((xs.length - 1) / c + 1) * c = xs.length := by
      rw [Nat.add_mul]
      split at hlength <;> omega
    rw [if_pos hfull, if_pos hfull, hall, List.drop_left]
  · have hle : (xs.length - 1) / c * c ≤ xs.length := by omega
    rw [if_neg hfull, if_neg hfull, Nat.add_zero, List.drop_append_of_le_length hle, lastRound]

/-- What is in the last round is what comes as late as the last of all, counted in rounds. -/
theorem mem_lastRound_iff (hc : 0 < c) {xs : List α} {x : α} :
    x ∈ lastRound c xs ↔ ∃ k, xs[k]? = some x ∧ k / c = (xs.length - 1) / c := by
  rw [lastRound, List.mem_iff_getElem?]
  constructor
  · rintro ⟨i, hi⟩
    rw [List.getElem?_drop] at hi
    obtain ⟨hlt, -⟩ := List.getElem?_eq_some_iff.1 hi
    have hle : (xs.length - 1) / c * c + i ≤ xs.length - 1 := by omega
    refine ⟨_, hi, Nat.le_antisymm (Nat.div_le_div_right hle) ?_⟩
    rw [Nat.le_div_iff_mul_le hc]
    exact Nat.le_add_right _ i
  · rintro ⟨k, hk, hround⟩
    have hle : (xs.length - 1) / c * c ≤ k := by
      rw [← hround]
      exact Nat.div_mul_le_self k c
    refine ⟨k - (xs.length - 1) / c * c, ?_⟩
    rw [List.getElem?_drop, Nat.add_sub_cancel' hle]
    exact hk

end Rounds

/-! ## What one request does -/

theorem clearedSize?_parseEvents (input : String) :
    (parseEvents input).filterMap Event.clearedSize? = [] := by
  apply List.filterMap_eq_nil_iff.2
  intro event hevent
  unfold parseEvents at hevent
  split at hevent
  next ts _ =>
    rcases List.mem_cons.1 hevent with rfl | hevent
    · rfl
    · obtain ⟨t, -, rfl⟩ := List.mem_map.1 hevent
      rfl
  next => cases hevent

/-- A text that is a filter has tokens, so reading it is reported. -/
theorem parseEvents_ne_nil {mode : ParseMode} {filter : String} {expr : Expr}
    (h : parse mode filter = .ok expr) : parseEvents filter ≠ [] := by
  cases ht : tokenize filter with
  | error e =>
    rw [parse, ht] at h
    cases h
  | ok ts => simp [parseEvents, ht]

/-- A request leaves the cache as it is, or parses a filter anew and takes it in. -/
theorem request_cases (cache : Cache) (filter : String) :
    (cache.miss? (.get filter) = none ∧ (cache.get filter).state = cache ∧
      cache.clearingsOf (.get filter) = []) ∨
    ∃ expr, cache.entries[filter]? = none ∧ parse cache.mode filter = .ok expr ∧
      cache.miss? (.get filter) = some (filter, ⟨expr, cache.nextSerial⟩) ∧
      (cache.get filter).state =
        { cache.store cache.mode filter ⟨expr, cache.nextSerial⟩ with
          nextSerial := cache.nextSerial + 1 } ∧
      cache.clearingsOf (.get filter) =
        if cache.keeps cache.mode && cache.isFull then [cache.size] else [] := by
  obtain ⟨kept, hk, hget⟩ | ⟨e, hk, hp, hget⟩ | ⟨expr, hk, hp, hget⟩ := cache.get_cases filter
  · refine .inl ⟨by simp [miss?, hk], by rw [hget], ?_⟩
    rw [clearingsOf, hget]
    rfl
  · refine .inl ⟨by simp [miss?, hk, hget], by rw [hget], ?_⟩
    rw [clearingsOf, hget]
    exact clearedSize?_parseEvents filter
  · refine .inr ⟨expr, hk, hp, by simp [miss?, hk, hget], by rw [hget], ?_⟩
    rw [clearingsOf, hget, List.filterMap_append, clearedSize?_parseEvents, storeEvents]
    split <;> rfl

namespace Keeps

variable {cache : Cache} {round : List (String × ParsedFilter)} {filter : String}

theorem of_entries_eq_empty (h : cache.entries = ∅) : cache.Keeps [] where
  getElem?_iff := by simp [h]
  size_eq := by simp [size, h]

theorem insert (h : cache.Keeps round) (hk : cache.entries[filter]? = none)
    (parsed : ParsedFilter) :
    Keeps { cache with entries := cache.entries.insert filter parsed }
      (round ++ [(filter, parsed)]) where
  getElem?_iff text kept := by
    rw [Std.HashMap.getElem?_insert, List.mem_append, List.mem_singleton, ← h.getElem?_iff]
    by_cases heq : filter = text
    · subst heq
      simp [hk, eq_comm]
    · simp [heq, Ne.symm heq]
  size_eq := by
    have hmem : filter ∉ cache.entries := by
      rw [Std.HashMap.mem_iff_isSome_getElem?, hk]
      exact Bool.false_ne_true
    rw [size, Std.HashMap.size_insert, if_neg hmem, List.length_append, ← h.size_eq]
    rfl

theorem store (h : cache.Keeps round) (hcapacity : 0 < cache.capacity)
    (hk : cache.entries[filter]? = none) (parsed : ParsedFilter) :
    (cache.store cache.mode filter parsed).Keeps
      (nextRound cache.capacity round (filter, parsed)) := by
  have hkeeps : cache.keeps cache.mode = true := by simp [Cache.keeps, Nat.ne_of_gt hcapacity]
  rw [Cache.store, if_pos hkeeps, nextRound]
  by_cases hfull : cache.capacity ≤ round.length
  · have hroom : cache.makeRoom = cache.clear := by
      rw [makeRoom, if_pos (by simp [isFull, h.size_eq, hfull])]
    rw [if_pos hfull, hroom]
    have hcleared : cache.clear.Keeps [] := of_entries_eq_empty rfl
    exact hcleared.insert (by simp [clear]) parsed
  · have hroom : cache.makeRoom = cache := by
      rw [makeRoom, if_neg (by simp [isFull, h.size_eq, hfull])]
    rw [if_neg hfull, hroom]
    exact h.insert hk parsed

end Keeps

theorem Numbered.concat {cache cache' : Cache} {ms : List (String × ParsedFilter)}
    {filter : String} {expr : Expr} (h : cache.Numbered ms)
    (hp : parse cache.mode filter = .ok expr) (hmode : cache'.mode = cache.mode)
    (hserial : cache'.nextSerial = cache.nextSerial + 1) :
    cache'.Numbered (ms ++ [(filter, ⟨expr, cache.nextSerial⟩)]) where
  parsed x hx := by
    rw [hmode]
    rcases List.mem_append.1 hx with hx | hx
    · exact h.parsed x hx
    · rw [List.mem_singleton.1 hx]
      exact hp
  serial_lt x hx := by
    rw [hserial]
    rcases List.mem_append.1 hx with hx | hx
    · exact Nat.lt_succ_of_lt (h.serial_lt x hx)
    · rw [List.mem_singleton.1 hx]
      exact Nat.lt_succ_self cache.nextSerial
  increasing := by
    apply List.pairwise_append.2
    refine ⟨h.increasing, List.pairwise_singleton _ _, ?_⟩
    intro x hx y hy
    rw [List.mem_singleton.1 hy]
    exact h.serial_lt x hx

/-- A cache that is found full is emptied, and what it held was a full round. -/
theorem Keeps.emptied_eq {cache : Cache} {ms : List (String × ParsedFilter)}
    (h : cache.Keeps (lastRound cache.capacity ms)) (hcapacity : 0 < cache.capacity) :
    (if cache.keeps cache.mode && cache.isFull then [cache.size] else []) =
      List.replicate
        (if cache.capacity ≤ (lastRound cache.capacity ms).length then 1 else 0)
        cache.capacity := by
  have hle := length_lastRound_le hcapacity ms
  have hkeeps : cache.keeps cache.mode = true := by simp [Cache.keeps, Nat.ne_of_gt hcapacity]
  rw [hkeeps, Bool.true_and, isFull, h.size_eq]
  by_cases hfull : cache.capacity ≤ (lastRound cache.capacity ms).length
  · rw [if_pos hfull, if_pos (decide_eq_true hfull), Nat.le_antisymm hle hfull]
    rfl
  · rw [if_neg hfull, if_neg (by simpa using hfull)]
    rfl

namespace Accounts

variable {cache : Cache} {ms : List (String × ParsedFilter)} {cs : List Nat}

theorem of_entries_eq_empty (h : cache.entries = ∅) : cache.Accounts [] [] where
  numbered := ⟨by simp, by simp, .nil⟩
  keeps _ := by
    rw [lastRound_nil]
    exact .of_entries_eq_empty h
  clearings_eq := by simp

theorem get (h : cache.Accounts ms cs) (filter : String) :
    (cache.get filter).state.Accounts (ms ++ (cache.miss? (.get filter)).toList)
      (cs ++ cache.clearingsOf (.get filter)) := by
  obtain ⟨hmiss, hstate, hclearings⟩ | ⟨expr, hk, hp, hmiss, hstate, hclearings⟩ :=
    cache.request_cases filter
  · rw [hmiss, hstate, hclearings, Option.toList_none, List.append_nil, List.append_nil]
    exact h
  · have hsettings := settings_get cache filter
    have hcapacity : (cache.get filter).state.capacity = cache.capacity :=
      congrArg Config.cacheCapacity hsettings
    have hmode : (cache.get filter).state.mode = cache.mode := congrArg Config.mode hsettings
    have hserial : (cache.get filter).state.nextSerial = cache.nextSerial + 1 := by rw [hstate]
    rw [hmiss, hclearings, Option.toList_some]
    refine ⟨h.numbered.concat hp hmode hserial, ?_, ?_⟩
    · intro hpos
      rw [hcapacity] at hpos ⊢
      have hstored := (h.keeps hpos).store hpos hk ⟨expr, cache.nextSerial⟩
      rw [lastRound_concat hpos, hstate]
      exact ⟨hstored.getElem?_iff, hstored.size_eq⟩
    · rw [hcapacity, List.length_append, List.length_singleton, Nat.add_sub_cancel,
        h.clearings_eq]
      rcases Nat.eq_zero_or_pos cache.capacity with hzero | hpos
      · -- without room for any filter there is nothing to empty
        simp [hzero, Cache.keeps]
      · rw [(h.keeps hpos).emptied_eq hpos, length_div hpos, List.replicate_add]

/-! ## What a run of requests does -/

theorem afterAll {calls : List Call} (h : cache.Accounts ms cs)
    (hcalls : ∀ call ∈ calls, call.restarts = false) :
    (cache.afterAll calls).Accounts (ms ++ cache.misses calls) (cs ++ cache.clearings calls) := by
  induction calls generalizing cache ms cs with
  | nil =>
    rw [misses, clearings, List.append_nil, List.append_nil]
    exact h
  | cons call calls ih =>
    cases call with
    | get filter =>
      have hrest : ∀ call ∈ calls, call.restarts = false := by
        intro call hcall
        exact hcalls call (List.mem_cons_of_mem _ hcall)
      rw [misses, clearings, ← List.append_assoc, ← List.append_assoc]
      exact ih (h.get filter) hrest
    | reset capacity mode => cases hcalls _ List.mem_cons_self
    | clear => cases hcalls _ List.mem_cons_self

end Accounts

theorem afterAll_append (cache : Cache) (calls calls' : List Call) :
    cache.afterAll (calls ++ calls') = (cache.afterAll calls).afterAll calls' :=
  List.foldl_append

/-- A cache that has just been made, reset or cleared is empty. -/
theorem entries_untilRestart (capacity : Nat) (mode : ParseMode) (calls : List Call) :
    ((empty capacity mode).afterAll (untilRestart calls)).entries = ∅ := by
  induction calls using List.reverseRecOn with
  | nil => rfl
  | append_singleton calls call ih =>
    cases call with
    | get filter =>
      have hsame : untilRestart (calls ++ [.get filter]) = untilRestart calls :=
        List.rdropWhile_concat_pos _ _ _ rfl
      rw [hsame]
      exact ih
    | reset capacity mode =>
      rw [untilRestart, List.rdropWhile_concat_neg _ _ _ Bool.false_ne_true, afterAll_append]
      rfl
    | clear =>
      rw [untilRestart, List.rdropWhile_concat_neg _ _ _ Bool.false_ne_true, afterAll_append]
      rfl

theorem accounts_sinceRestart (capacity : Nat) (mode : ParseMode) (calls : List Call) :
    let start := (empty capacity mode).afterAll (untilRestart calls)
    ((empty capacity mode).afterAll calls).Accounts (start.misses (sinceRestart calls))
      (start.clearings (sinceRestart calls)) := by
  intro start
  have hempty : start.Accounts [] [] :=
    .of_entries_eq_empty (entries_untilRestart capacity mode calls)
  have hcalls : ∀ call ∈ sinceRestart calls, call.restarts = false := by
    intro call hcall
    simpa using List.mem_rtakeWhile_imp hcall
  have hsplit : untilRestart calls ++ sinceRestart calls = calls :=
    List.rdropWhile_append_rtakeWhile
  have hall := hempty.afterAll hcalls
  rwa [← afterAll_append, hsplit] at hall

/-! ## What is served from the cache -/

namespace Accounts

variable {cache : Cache} {ms : List (String × ParsedFilter)} {cs : List Nat}

theorem size_eq (h : cache.Accounts ms cs) (hcapacity : 0 < cache.capacity) :
    cache.size = if ms.length = 0 then 0 else (ms.length - 1) % cache.capacity + 1 := by
  rw [(h.keeps hcapacity).size_eq, length_lastRound]

/-- Of a filter that has been parsed, the last one is kept through its round, and nothing is kept
after it. -/
theorem getElem?_eq (h : cache.Accounts ms cs) (hcapacity : 0 < cache.capacity) {j : Nat}
    {filter : String} {parsed : ParsedFilter} (hj : ms[j]? = some (filter, parsed))
    (hlast : ∀ k later, ms[k]? = some (filter, later) → k ≤ j) :
    cache.entries[filter]? =
      if j / cache.capacity = (ms.length - 1) / cache.capacity then some parsed else none := by
  by_cases hround : j / cache.capacity = (ms.length - 1) / cache.capacity
  · rw [if_pos hround, (h.keeps hcapacity).getElem?_iff, mem_lastRound_iff hcapacity]
    exact ⟨j, hj, hround⟩
  · rw [if_neg hround]
    cases hk : cache.entries[filter]? with
    | none => rfl
    | some kept =>
      -- it would have been parsed at some `k` in the last round, and `j` is before that
      rw [(h.keeps hcapacity).getElem?_iff, mem_lastRound_iff hcapacity] at hk
      obtain ⟨k, hk, hlate⟩ := hk
      obtain ⟨hlt, -⟩ := List.getElem?_eq_some_iff.1 hj
      have hj : j ≤ ms.length - 1 := by omega
      have hle := Nat.div_le_div_right (c := cache.capacity) (hlast k kept hk)
      have hge := Nat.div_le_div_right (c := cache.capacity) hj
      omega

theorem served_iff (h : cache.Accounts ms cs) (hcapacity : 0 < cache.capacity) {j : Nat}
    {filter : String} {parsed : ParsedFilter} (hj : ms[j]? = some (filter, parsed))
    (hlast : ∀ k later, ms[k]? = some (filter, later) → k ≤ j) :
    ((cache.get filter).answer = .ok parsed ↔
      j / cache.capacity = (ms.length - 1) / cache.capacity) ∧
    ((cache.get filter).events = [] ↔
      j / cache.capacity = (ms.length - 1) / cache.capacity) := by
  have hk := h.getElem?_eq hcapacity hj hlast
  have hmem : (filter, parsed) ∈ ms := List.mem_of_getElem? hj
  by_cases hround : j / cache.capacity = (ms.length - 1) / cache.capacity
  · rw [if_pos hround] at hk
    rw [get_of_some hk]
    simp [hround]
  · rw [if_neg hround] at hk
    -- the answer may be the same tree, but its number is a new one
    have hserial : cache.nextSerial ≠ parsed.serial := Nat.ne_of_gt (h.numbered.serial_lt _ hmem)
    have hevents := parseEvents_ne_nil (h.numbered.parsed _ hmem)
    rw [get_of_none hk, miss_of_ok (h.numbered.parsed _ hmem)]
    constructor
    · simp only [hround, iff_false]
      intro hsame
      exact hserial (congrArg ParsedFilter.serial (Except.ok.inj hsame))
    · simp [hround, hevents]

end Accounts

/-- A cache with no room stores nothing, and parses whatever it is asked for. -/
theorem get_of_capacity_eq_zero {cache : Cache} (h : cache.Sound) (hzero : cache.capacity = 0) :
    cache.size = 0 ∧ ∀ filter,
      (cache.get filter).answer = (parse cache.mode filter).map (⟨·, cache.nextSerial⟩) ∧
      (cache.get filter).events = parseEvents filter := by
  have hsize : cache.size = 0 := by
    have hle := h.size_le
    omega
  refine ⟨hsize, ?_⟩
  intro filter
  have hempty : cache.entries.isEmpty = true := by
    rw [Std.HashMap.isEmpty_eq_size_eq_zero]
    exact beq_of_eq hsize
  rw [get_of_none (Std.HashMap.getElem?_of_isEmpty hempty)]
  cases hp : parse cache.mode filter with
  | error e =>
    rw [miss_of_error hp]
    exact ⟨rfl, rfl⟩
  | ok expr =>
    have hevents : cache.storeEvents cache.mode = [] := by simp [storeEvents, keeps, hzero]
    rw [miss_of_ok hp, hevents, List.append_nil]
    exact ⟨rfl, rfl⟩

/-- What a cache keeps after any calls, by the filters that have been parsed anew since it was made,
reset or cleared last (the first one has number 0). Their number says how many filters are kept, and
how often a full cache has been emptied. One of them is served as long as no later round has begun,
and a request for what is kept or cannot be parsed changes nothing. -/
theorem rounds_afterAll (capacity : Nat) (mode : ParseMode) (calls : List Call) :
    let start := (empty capacity mode).afterAll (untilRestart calls)
    let cache := (empty capacity mode).afterAll calls
    let misses := start.misses (sinceRestart calls)
    let c := cache.capacity
    let m := misses.length
    start.clearings (sinceRestart calls) = List.replicate ((m - 1) / c) c ∧
    misses.Pairwise (·.2.serial < ·.2.serial) ∧
    (∀ filter, ((∃ kept, cache.entries[filter]? = some kept) ∨
        ∃ e, (cache.get filter).answer = .error e) →
      cache.miss? (.get filter) = none ∧ (cache.get filter).state = cache ∧
        cache.clearingsOf (.get filter) = []) ∧
    (c = 0 → cache.size = 0 ∧ ∀ filter,
      (cache.get filter).answer = (parse cache.mode filter).map (⟨·, cache.nextSerial⟩) ∧
      (cache.get filter).events = parseEvents filter) ∧
    (0 < c → cache.size = (if m = 0 then 0 else (m - 1) % c + 1) ∧
      ∀ j filter parsed, misses[j]? = some (filter, parsed) →
        (∀ k later, misses[k]? = some (filter, later) → k ≤ j) →
        ((cache.get filter).answer = .ok parsed ↔ j / c = (m - 1) / c) ∧
        ((cache.get filter).events = [] ↔ j / c = (m - 1) / c)) := by
  intro start cache misses c m
  have h : cache.Accounts misses (start.clearings (sinceRestart calls)) :=
    accounts_sinceRestart capacity mode calls
  refine ⟨h.clearings_eq, h.numbered.increasing, ?_, ?_, ?_⟩
  · intro filter hserved
    obtain hsame | ⟨expr, hk, hp, -⟩ := cache.request_cases filter
    · exact hsame
    · rcases hserved with ⟨kept, hkept⟩ | ⟨e, he⟩
      · rw [hk] at hkept
        cases hkept
      · rw [get_of_none hk, miss_of_ok hp] at he
        cases he
  · exact get_of_capacity_eq_zero ((Sound.empty capacity mode).afterAll calls)
  · intro hpos
    exact ⟨h.size_eq hpos, fun j filter parsed hj hlast => h.served_iff hpos hj hlast⟩

/-- Two filters fill a cache of two, with a text that is no filter and a filter that is kept asked
for between. The third one empties it: the first is parsed anew then, the third is served. -/
theorem rounds_afterAll_two :
    let calls : List Call := [.get "a = 1", .clear, .get "a = 1", .get "a =", .get "b = 2",
      .get "a = 1", .get "c = 3"]
    let start := (empty 2 .strict).afterAll (untilRestart calls)
    let cache := (empty 2 .strict).afterAll calls
    let parsed (field value : String) (serial : Nat) : ParsedFilter :=
      ⟨.condition ⟨field, .equals, value⟩, serial⟩
    start.misses (sinceRestart calls) =
      [("a = 1", parsed "a" "1" 1), ("b = 2", parsed "b" "2" 2), ("c = 3", parsed "c" "3" 3)] ∧
    start.clearings (sinceRestart calls) = [2] ∧
    cache.size = 1 ∧
    (cache.get "a = 1").answer ≠ .ok (parsed "a" "1" 1) ∧
    (cache.get "a = 1").events ≠ [] ∧
    (cache.get "c = 3").answer = .ok (parsed "c" "3" 3) ∧
    (cache.get "c = 3").events = [] := by
  intro calls start cache parsed
  have ha : parse .strict "a = 1" = .ok (.condition ⟨"a", .equals, "1"⟩) := by decide +kernel
  have hb : parse .strict "b = 2" = .ok (.condition ⟨"b", .equals, "2"⟩) := by decide +kernel
  have hc : parse .strict "c = 3" = .ok (.condition ⟨"c", .equals, "3"⟩) := by decide +kernel
  have hbad : parse .strict "a =" = .error (.parse (.missingValue 2)) := by decide +kernel
  have huntil : untilRestart calls = [.get "a = 1", .clear] := rfl
  have hsince : sinceRestart calls =
    [.get "a = 1", .get "a =", .get "b = 2", .get "a = 1", .get "c = 3"] := rfl
  have hstart : start = ⟨.strict, 2, ∅, 1⟩ := by
    simp [start, huntil, after, get, miss, ha, store, empty, clear, makeRoom, isFull, keeps, size]
  have hmisses : start.misses (sinceRestart calls) =
      [("a = 1", parsed "a" "1" 1), ("b = 2", parsed "b" "2" 2),
        ("c = 3", parsed "c" "3" 3)] := by
    rw [hsince, hstart]
    simp [misses, miss?, after, get, miss, ha, hb, hc, hbad, store, keeps, makeRoom, isFull, size,
      Std.HashMap.size_insert, parsed]
  have hcapacity : cache.capacity = 2 :=
    congrArg Config.cacheCapacity (settings_afterAll (empty 2 .strict) calls)
  obtain ⟨hclearings, -, -, -, hrounds⟩ := rounds_afterAll 2 .strict calls
  obtain ⟨hsize, hserved⟩ := hrounds (by rw [hcapacity]; decide)
  rw [hmisses, hcapacity] at hclearings
  rw [hmisses, hcapacity] at hsize
  rw [hmisses, hcapacity] at hserved
  have hfirst := hserved 0 "a = 1" (parsed "a" "1" 1) rfl (by
    intro k later hk
    rcases k with _ | _ | _ | k
    · exact Nat.le_refl 0
    all_goals simp at hk)
  have hthird := hserved 2 "c = 3" (parsed "c" "3" 3) rfl (by
    intro k later hk
    exact Nat.le_of_lt_succ (List.getElem?_eq_some_iff.1 hk).1)
  refine ⟨hmisses, by simpa using hclearings, by simpa using hsize, ?_, ?_, hthird.1.2 rfl,
    hthird.2.2 rfl⟩
  · intro h
    exact absurd (hfirst.1.1 h) (by decide)
  · intro h
    exact absurd (hfirst.2.1 h) (by decide)

end Cache

end RecordFilter
