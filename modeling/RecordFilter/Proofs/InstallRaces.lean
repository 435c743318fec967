import Mathlib.Data.List.FinRange
import Mathlib.Logic.Function.Basic
import RecordFilter.Proofs.SessionRuns

/-!
# Installations that overlap

An installation publishes its configuration and resets the cache in two steps, and several may be
under way at once. `Installing` is the state of some calls that share a session: in any order, one
call after another takes its next step. The configuration that is active in the end is the one
published last and the cache follows the one it was reset to last, and nothing makes the two the
same: of all calls, any may be the last to publish and any the last to reset.
-/

namespace RecordFilter

namespace Session

/-- How far a call that installs a configuration has come. -/
inductive Stage where
  /-- It is about to look whether a configuration has been installed. -/
  | looking
  /-- None has: it is about to install the first. -/
  | setting
  /-- One has: it is about to overwrite it. -/
  | writing
  /-- Its configuration is published: it is about to reset the cache. -/
  | resetting
  | returned
deriving DecidableEq

/-- The session and the stage after the next step of a call that installs `c`. A call that meant to
install the first configuration overwrites the one that came before it. -/
def Stage.next (s : Session) (c : Config) : Stage → Session × Stage
  | .looking => (s, if s.isInitialized then .writing else .setting)
  | .setting => if s.isInitialized then (s, .writing) else (s.publish c, .resetting)
  | .writing => (s.publish c, .resetting)
  | .resetting => (s.resetCache c, .returned)
  | .returned => (s, .returned)

/-- A session with `n` calls under way. -/
structure Installing (n : Nat) where
  session : Session
  stages : Fin n → Stage

namespace Installing

variable {n : Nat} (configs : Fin n → Config)

/-- The calls have just begun. -/
def start (s : Session) : Installing n :=
  ⟨s, fun _ => .looking⟩

/-- The `i`th call comes to a stage and leaves the session so. -/
def advance (p : Installing n) (i : Fin n) (session : Session) (stage : Stage) : Installing n :=
  ⟨session, Function.update p.stages i stage⟩

/-- The `i`th call takes its next step. -/
def step (p : Installing n) (i : Fin n) : Installing n :=
  let (session, stage) := (p.stages i).next p.session (configs i)
  p.advance i session stage

/-- The calls take steps in the order of the schedule. -/
def run (p : Installing n) (schedule : List (Fin n)) : Installing n :=
  schedule.foldl (step configs) p

/-- All calls have returned. -/
def AllReturned (p : Installing n) : Prop :=
  ∀ i, p.stages i = .returned

@[simp] theorem session_advance (p : Installing n) (i : Fin n) (s : Session) (stage : Stage) :
    (p.advance i s stage).session = s := rfl

@[simp] theorem stages_advance_self (p : Installing n) (i : Fin n) (s : Session) (stage : Stage) :
    (p.advance i s stage).stages i = stage := by
  simp [advance]

@[simp] theorem advance_advance (p : Installing n) (i : Fin n) (s s' : Session)
    (stage stage' : Stage) : (p.advance i s stage).advance i s' stage' = p.advance i s' stage' := by
  simp [advance]

theorem stages_advance_of_ne {p : Installing n} {i k : Fin n} (h : k ≠ i) (s : Session)
    (stage : Stage) : (p.advance i s stage).stages k = p.stages k := by
  simp [advance, h]

@[simp] theorem run_nil (p : Installing n) : p.run configs [] = p := rfl

@[simp] theorem run_cons (p : Installing n) (i : Fin n) (rest : List (Fin n)) :
    p.run configs (i :: rest) = (p.step configs i).run configs rest := rfl

@[simp] theorem run_append (p : Installing n) (first second : List (Fin n)) :
    p.run configs (first ++ second) = (p.run configs first).run configs second :=
  List.foldl_append

variable {configs}

/-! ## What one step does -/

/-- A call publishes its configuration, or resets the cache to it after that, or leaves the session
alone; by the last it neither publishes nor returns. -/
theorem step_cases (configs : Fin n → Config) (p : Installing n) (i : Fin n) :
    (∃ stage, p.step configs i = p.advance i p.session stage ∧
      (stage = p.stages i ∨ stage = .writing ∨ stage = .setting)) ∨
    p.step configs i = p.advance i (p.session.publish (configs i)) .resetting ∨
    p.stages i = .resetting ∧
      p.step configs i = p.advance i (p.session.resetCache (configs i)) .returned := by
  cases h : p.stages i with
  | looking =>
    by_cases hs : p.session.isInitialized = true
    · exact .inl ⟨.writing, by simp [step, h, Stage.next, hs], by simp⟩
    · exact .inl ⟨.setting, by simp [step, h, Stage.next, hs], by simp⟩
  | setting =>
    by_cases hs : p.session.isInitialized = true
    · exact .inl ⟨.writing, by simp [step, h, Stage.next, hs], by simp⟩
    · exact .inr (.inl (by simp [step, h, Stage.next, hs]))
  | writing => exact .inr (.inl (by simp [step, h, Stage.next]))
  | resetting => exact .inr (.inr ⟨rfl, by simp [step, h, Stage.next]⟩)
  | returned => exact .inl ⟨.returned, by simp [step, h, Stage.next], by simp⟩

theorem step_of_resetting {p : Installing n} {i : Fin n} (h : p.stages i = .resetting) :
    p.step configs i = p.advance i (p.session.resetCache (configs i)) .returned := by
  simp [step, h, Stage.next]

/-- A call that is not disturbed publishes its configuration in two steps. -/
theorem run_of_looking {p : Installing n} {i : Fin n} (h : p.stages i = .looking) :
    p.run configs [i, i] = p.advance i (p.session.publish (configs i)) .resetting := by
  by_cases hs : p.session.isInitialized = true
  · simp [step, h, Stage.next, hs]
  · simp [step, h, Stage.next, hs]

/-- A call that is not disturbed installs its configuration. -/
theorem session_run_alone {p : Installing n} {i : Fin n} (h : p.stages i = .looking) :
    (p.run configs ([i, i] ++ [i])).session = (p.session.install (configs i)).state := by
  rw [run_append, run_of_looking h, run_cons, step_of_resetting (stages_advance_self ..)]
  rfl

/-! ## What every run preserves -/

/-- If a call has published its configuration, one of the calls has left it in force, and if a call
has reset the cache, one of them has left it so. -/
structure Consistent (configs : Fin n → Config) (p : Installing n) : Prop where
  installed : ∀ i, p.stages i = .resetting ∨ p.stages i = .returned →
    ∃ k, p.session.installed = some (configs k)
  created : ∀ i, p.stages i = .returned →
    ∃ k cache, p.session.created = some cache ∧ cache.settings = configs k

theorem Consistent.start (s : Session) : (start s : Installing n).Consistent configs where
  installed i h := by simp [Installing.start] at h
  created i h := by simp [Installing.start] at h

/-- A step by which a call neither publishes nor returns. -/
theorem Consistent.advance {p : Installing n} (h : p.Consistent configs) {i : Fin n} {stage : Stage}
    (hstage : stage = p.stages i ∨ stage = .writing ∨ stage = .setting) :
    (p.advance i p.session stage).Consistent configs := by
  have hold (k : Fin n) (hk : (p.advance i p.session stage).stages k = .resetting ∨
      (p.advance i p.session stage).stages k = .returned) :
      (p.advance i p.session stage).stages k = p.stages k := by
    by_cases hki : k = i
    · subst hki
      rw [stages_advance_self] at hk ⊢
      rcases hstage with hstage | hstage | hstage
      · exact hstage
      · simp [hstage] at hk
      · simp [hstage] at hk
    · exact stages_advance_of_ne hki p.session stage
  constructor
  · intro k hk
    rw [hold k hk] at hk
    exact h.installed k hk
  · intro k hk
    rw [hold k (.inr hk)] at hk
    exact h.created k hk

theorem Consistent.publish {p : Installing n} (h : p.Consistent configs) (i : Fin n) :
    (p.advance i (p.session.publish (configs i)) .resetting).Consistent configs where
  installed _ _ := ⟨i, rfl⟩
  created k hk := by
    by_cases hki : k = i
    · simp [hki] at hk
    · rw [stages_advance_of_ne hki] at hk
      exact h.created k hk

theorem Consistent.resetCache {p : Installing n} (h : p.Consistent configs) {i : Fin n}
    (hi : p.stages i = .resetting) :
    (p.advance i (p.session.resetCache (configs i)) .returned).Consistent configs where
  installed _ _ := h.installed i (.inl hi)
  created _ _ := ⟨i, _, rfl, rfl⟩

theorem Consistent.step {p : Installing n} (h : p.Consistent configs) (i : Fin n) :
    (p.step configs i).Consistent configs := by
  obtain ⟨stage, hstep, hstage⟩ | hstep | ⟨hresetting, hstep⟩ := p.step_cases configs i
  · rw [hstep]
    exact h.advance hstage
  · rw [hstep]
    exact h.publish i
  · rw [hstep]
    exact h.resetCache hresetting

theorem Consistent.run {p : Installing n} (h : p.Consistent configs) (schedule : List (Fin n)) :
    (p.run configs schedule).Consistent configs := by
  induction schedule generalizing p with
  | nil => exact h
  | cons i rest ih => exact ih (h.step i)

/-- Once all calls have returned, one of their configurations is active, and the cache follows one
of them. -/
theorem Consistent.exists_of_allReturned {p : Installing n} (h : p.Consistent configs)
    (hreturned : p.AllReturned) (i : Fin n) :
    (∃ k, configs k = p.session.active) ∧ ∃ k, configs k = p.session.cache.settings := by
  obtain ⟨k, hk⟩ := h.installed i (.inr (hreturned i))
  obtain ⟨l, cache, hcache, hl⟩ := h.created i (hreturned i)
  constructor
  · exact ⟨k, by rw [active, hk]; rfl⟩
  · exact ⟨l, by rw [Session.cache, hcache]; exact hl.symm⟩

/-! ## Any call may be the last -/

/-- Calls that take their turns one after another all come from one stage to another one. What each
turn preserves of the session is preserved. -/
theorem run_turns {P : Session → Prop} {before after : Stage} (turn : Fin n → List (Fin n))
    (hturn : ∀ (p : Installing n) (i : Fin n), p.stages i = before → P p.session →
      ∃ s, p.run configs (turn i) = p.advance i s after ∧ P s)
    {calls : List (Fin n)} (hcalls : calls.Nodup) {p : Installing n}
    (hbefore : ∀ i ∈ calls, p.stages i = before) (hp : P p.session) :
    (∀ i, (p.run configs (calls.flatMap turn)).stages i =
      if i ∈ calls then after else p.stages i) ∧
    P (p.run configs (calls.flatMap turn)).session := by
  induction calls generalizing p with
  | nil => simpa using hp
  | cons c rest ih =>
    obtain ⟨hc, hrest⟩ := List.nodup_cons.1 hcalls
    obtain ⟨s, hrun, hs⟩ := hturn p c (hbefore c (by simp)) hp
    have hnext : ∀ i ∈ rest, (p.advance c s after).stages i = before := by
      intro i hi
      have hic : i ≠ c := by
        rintro rfl
        exact hc hi
      rw [stages_advance_of_ne hic]
      exact hbefore i (by simp [hi])
    obtain ⟨hall, hlast⟩ := ih hrest hnext hs
    rw [List.flatMap_cons, run_append, hrun]
    refine ⟨fun i => ?_, hlast⟩
    rw [hall i]
    by_cases hic : i = c
    · simp [hic, hc]
    · simp [hic, stages_advance_of_ne hic]

/-- All calls but one. -/
def others (i : Fin n) : List (Fin n) :=
  (List.finRange n).filter (· ≠ i)

theorem nodup_others (i : Fin n) : (others i).Nodup :=
  (List.nodup_finRange n).filter _

theorem mem_others {i k : Fin n} : k ∈ others i ↔ k ≠ i := by
  simp [others]

/-- All calls can publish their configurations before any resets the cache, and any of them last. -/
theorem exists_run_published (configs : Fin n → Config) (s : Session) (i : Fin n) :
    ∃ schedule, (∀ k, ((start s).run configs schedule).stages k = .resetting) ∧
      ((start s).run configs schedule).session.installed = some (configs i) := by
  have hturn (p : Installing n) (k : Fin n) (hk : p.stages k = .looking) (_ : True) :
      ∃ s, p.run configs [k, k] = p.advance k s .resetting ∧ True :=
    ⟨_, run_of_looking hk, trivial⟩
  obtain ⟨hstages, -⟩ := run_turns (P := fun _ => True) (fun k => [k, k]) hturn (nodup_others i)
    (p := start s) (fun _ _ => rfl) trivial
  have hi : ((start s).run configs ((others i).flatMap fun k => [k, k])).stages i = .looking := by
    rw [hstages i, if_neg (by simp [mem_others])]
    rfl
  refine ⟨((others i).flatMap fun k => [k, k]) ++ [i, i], ?_⟩
  rw [run_append, run_of_looking hi]
  refine ⟨fun k => ?_, rfl⟩
  by_cases hk : k = i
  · rw [hk, stages_advance_self]
  · rw [stages_advance_of_ne hk, hstages k, if_pos (mem_others.2 hk)]

/-- Once all calls have published, any of them may be the last to reset the cache. -/
theorem exists_run_returned {p : Installing n} (hp : ∀ k, p.stages k = .resetting) (j : Fin n) :
    ∃ schedule, (p.run configs schedule).AllReturned ∧
      (p.run configs schedule).session.installed = p.session.installed ∧
      (p.run configs schedule).session.cache.settings = configs j := by
  have hturn (q : Installing n) (k : Fin n) (hk : q.stages k = .resetting)
      (hq : q.session.installed = p.session.installed) :
      ∃ s, q.run configs [k] = q.advance k s .returned ∧ s.installed = p.session.installed :=
    ⟨_, step_of_resetting hk, hq⟩
  obtain ⟨hstages, hinstalled⟩ := run_turns (P := fun s => s.installed = p.session.installed)
    (fun k => [k]) hturn (nodup_others j) (fun k _ => hp k) rfl
  have hj : (p.run configs ((others j).flatMap fun k => [k])).stages j = .resetting := by
    rw [hstages j, if_neg (by simp [mem_others])]
    exact hp j
  refine ⟨((others j).flatMap fun k => [k]) ++ [j], ?_⟩
  rw [run_append, run_cons, step_of_resetting hj]
  refine ⟨fun k => ?_, hinstalled, rfl⟩
  by_cases hk : k = j
  · rw [hk, run_nil, stages_advance_self]
  · rw [run_nil, stages_advance_of_ne hk, hstages k, if_pos (mem_others.2 hk)]

/-- The configurations that calls leave in force, and the settings that they leave the cache, are
those of any two of them. -/
theorem exists_run_iff (configs : Fin (n + 1) → Config) (s : Session) (inForce settings : Config) :
    (∃ schedule, ((start s).run configs schedule).AllReturned ∧
      ((start s).run configs schedule).session.active = inForce ∧
      ((start s).run configs schedule).session.cache.settings = settings) ↔
    (∃ i, configs i = inForce) ∧ ∃ j, configs j = settings := by
  constructor
  · rintro ⟨schedule, hreturned, rfl, rfl⟩
    exact ((Consistent.start s).run schedule).exists_of_allReturned hreturned 0
  · rintro ⟨⟨i, rfl⟩, j, rfl⟩
    obtain ⟨first, hpublished, hinstalled⟩ := exists_run_published configs s i
    obtain ⟨second, hreturned, hsame, hsettings⟩ := exists_run_returned hpublished j
    refine ⟨first ++ second, ?_⟩
    rw [run_append]
    exact ⟨hreturned, by rw [active, hsame, hinstalled]; rfl, hsettings⟩

/-- However the steps of calls that install configurations follow one another, once all have
returned the cache follows the active configuration, exactly if all calls install the same one. -/
theorem forall_run_settings_eq_active_iff (configs : Fin (n + 1) → Config) (s : Session) :
    (∀ schedule, ((start s).run configs schedule).AllReturned →
      ((start s).run configs schedule).session.cache.settings =
        ((start s).run configs schedule).session.active) ↔
    ∀ i j, configs i = configs j := by
  constructor
  · intro h i j
    obtain ⟨schedule, hreturned, hactive, hsettings⟩ :=
      (exists_run_iff configs s (configs i) (configs j)).2 ⟨⟨i, rfl⟩, j, rfl⟩
    have hagree := h schedule hreturned
    rw [hactive, hsettings] at hagree
    exact hagree.symm
  · intro h schedule hreturned
    obtain ⟨⟨i, hi⟩, j, hj⟩ := (exists_run_iff configs s _ _).1 ⟨schedule, hreturned, rfl, rfl⟩
    rw [← hi, ← hj]
    exact h j i

/-- Two calls in a fresh session. The first publishes a permissive configuration and stops; the
second installs a strict one; the first resets the cache. The cache then parses permissively and the
active configuration is strict. -/
theorem settings_ne_active_of_overlap :
    let configs : Fin 2 → Config := fun i => if i = 0 then ⟨.permissive, 1⟩ else ⟨.strict, 2⟩
    let p := (start fresh).run configs [0, 0, 1, 1, 1, 0]
    p.AllReturned ∧ p.session.active = ⟨.strict, 2⟩ ∧
      p.session.cache.settings = ⟨.permissive, 1⟩ := by
  intro configs p
  refine ⟨?_, rfl, rfl⟩
  show ∀ i, p.stages i = .returned
  decide

end Installing

end Session

end RecordFilter
