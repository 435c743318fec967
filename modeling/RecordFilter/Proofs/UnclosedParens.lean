import Mathlib.Control.Monad.Basic
import RecordFilter.Proofs.Refusals

/-!
# Parentheses that are never closed

The two modes differ in what they do about a parenthesis that is never closed, and in nothing else
(`parseTokens_permissive_eq`). The mode is looked at where a sequence ends inside parentheses, and
by every reader of what stands inside parentheses. The second does not matter: what a closing
parenthesis cuts out is balanced, and a balanced sequence does not end inside parentheses
(`Progress.phase_ne_body_of_balanced`), even if it has parentheses for fields and values, which the
reading of it does not count. So readers that agree on balanced tokens take the same steps on all
tokens (`Progress.run_congr`).
-/

namespace RecordFilter

/-- There are both readers or neither, and both read the same from balanced tokens. -/
def AgreeOnBalanced (body? body?' : Option BodyReader) : Prop :=
  Option.Rel (fun body body' => ∀ ts, Balanced ts → body ts = body' ts) body? body?'

namespace Progress

variable {mode mode' : ParseMode} {body? body?' : Option BodyReader} {p : Progress} {t : Token}
  {ts us : List Token}

/-! ## Balanced tokens -/

theorem closeGroup_congr (hbody : AgreeOnBalanced body? body?') {inside : List Token}
    (h : Balanced inside.reverse) (p : Progress) (opening : Token) :
    p.closeGroup body? opening inside = p.closeGroup body?' opening inside := by
  cases hbody with
  | none => rfl
  | some hagree => simp only [closeGroup, hagree _ h]

theorem beginTerm_congr (hbody : AgreeOnBalanced body? body?') (p : Progress) (t : Token) :
    p.beginTerm body? t = p.beginTerm body?' t := by
  cases hbody with
  | none => rfl
  | some hagree => rfl

theorem step_congr (hbody : AgreeOnBalanced body? body?') (hp : p.Recalls ts) :
    p.step body? t = p.step body?' t := by
  unfold step
  split
  next => rw [beginTerm_congr hbody]
  next => rw [beginTerm_congr hbody]
  next => rfl
  next => rfl
  next opening d inside hphase =>
    cases d with
    | zero => rw [closeGroup_congr hbody (hp.balanced_inside hphase)]
    | succ d => rfl

/-- Readers that agree on balanced tokens take the same steps. -/
theorem run_congr (hbody : AgreeOnBalanced body? body?') (hp : p.Recalls us) :
    p.run body? ts = p.run body?' ts := by
  induction ts generalizing p us with
  | nil => rfl
  | cons t ts ih =>
    have hsame : p.step body? t = p.step body?' t := step_congr hbody hp
    rw [run_cons, run_cons, ← hsame]
    cases hstep : p.step body? t with
    | error e => rfl
    | ok q => exact ih (hp.moves (moves_of_step hstep))

theorem run_start_congr (hbody : AgreeOnBalanced body? body?') (ts : List Token) :
    start.run body? ts = start.run body?' ts := by
  have hstart : start.Recalls [] := trivial
  exact run_congr hbody hstart

/-- Balanced tokens do not end inside parentheses. -/
theorem phase_ne_body_of_balanced (hts : Balanced ts) (h : start.run body? ts = .ok p)
    (opening : Token) (d : Nat) (inside : List Token) : p.phase ≠ .body opening d inside := by
  intro hphase
  obtain ⟨hopening, hdepth, us, rfl⟩ := (recalls_of_run h).body hphase
  rw [hts.unclosedAfter_eq_none hopening] at hdepth
  cases hdepth

/-- The mode, and the reader of what is inside, matter to the end of a sequence only inside
parentheses. -/
theorem finish_congr (h : ∀ opening d inside, p.phase ≠ .body opening d inside) :
    p.finish mode body? = p.finish mode' body?' := by
  unfold finish
  split
  next => rfl
  next => rfl
  next => rfl
  next => rfl
  next opening d inside hphase => exact absurd hphase (h opening d inside)

theorem readSequence_congr_of_balanced (hbody : AgreeOnBalanced body? body?')
    (hts : Balanced ts) : readSequence mode body? ts = readSequence mode' body?' ts := by
  rw [readSequence_eq_run, readSequence_eq_run, ← run_start_congr hbody]
  cases hrun : start.run body? ts with
  | error e => rfl
  | ok p => exact finish_congr (phase_ne_body_of_balanced hts hrun)

end Progress

/-- In balanced tokens all parentheses are closed, so the mode does not matter. -/
theorem agreeOnBalanced_bodyReader? (mode mode' : ParseMode) (levels : Nat) :
    AgreeOnBalanced (bodyReader? mode levels) (bodyReader? mode' levels) := by
  induction levels with
  | zero => exact .none
  | succ levels ih =>
    apply Option.Rel.some
    intro ts hts
    rw [readNested_eq, readNested_eq]
    exact Progress.readSequence_congr_of_balanced ih hts

/-! ## Any tokens -/

namespace Progress

variable {body? body?' : Option BodyReader} {ts : List Token}

/-- Where strict reading fails otherwise than at the end of the tokens inside parentheses, or does
not fail, permissive reading does the same. -/
theorem readSequence_permissive_eq (hbody : AgreeOnBalanced body? body?')
    (h : ∀ offset, readSequence .strict body? ts ≠ .error (.unclosedParen offset)) :
    readSequence .permissive body?' ts = readSequence .strict body? ts := by
  rw [readSequence_eq_run] at h
  rw [readSequence_eq_run, readSequence_eq_run, ← run_start_congr hbody]
  cases hrun : start.run body? ts with
  | error e => rfl
  | ok p =>
    rw [hrun, ok_bind] at h
    rw [ok_bind, ok_bind]
    apply finish_congr
    intro opening d inside hphase
    have hfinish : p.finish .strict body? = .error (.unclosedParen opening.offset) := by
      simp only [finish, hphase]
    exact h opening.offset hfinish

/-- The permissive reading of a sequence calls no parenthesis unclosed that the reader of what
stands inside parentheses does not call so. -/
theorem readSequence_permissive_ne_unclosedParen
    (hbody : ∀ body, body? = some body → ∀ us offset, body us ≠ .error (.unclosedParen offset)) :
    ∀ ts offset, readSequence .permissive body? ts ≠ .error (.unclosedParen offset) := by
  intro ts offset h
  have hgroup (opening : Token) (inside : List Token) :
      ¬ RefusesGroup body? opening inside (.unclosedParen offset) := by
    intro hrefuses
    cases hrefuses with
    | inside hsome he => exact hbody _ hsome inside offset he
  rcases refuses_of_readSequence h with ⟨_, _, _, _, _, _, hrefuses⟩ | ⟨_, _, hrefuses⟩
  · cases hrefuses with
    | close _ _ hclose => exact hgroup _ _ hclose
  · cases hrefuses with
    | unclosed hmode _ => cases hmode
    | close _ _ hclose => exact hgroup _ _ hclose

end Progress

theorem readNested_permissive_ne_unclosedParen (levels : Nat) :
    ∀ ts offset, readNested .permissive levels ts ≠ .error (.unclosedParen offset) :=
  readNested_induct (fun _ hbody => Progress.readSequence_permissive_ne_unclosedParen hbody) levels

/-- Permission to leave parentheses open changes nothing but that: where the tokens are read
without it, or refused for anything but an unclosed parenthesis, they are read or refused the same
with it, and with it they are never refused for an unclosed parenthesis. -/
theorem parseTokens_permissive_eq (ts : List Token) :
    ((∀ offset, parseTokens .strict ts ≠ .error (.unclosedParen offset)) →
      parseTokens .permissive ts = parseTokens .strict ts) ∧
    ∀ offset, parseTokens .permissive ts ≠ .error (.unclosedParen offset) := by
  constructor
  · intro h
    rw [parseTokens, parseTokens, readNested_eq, readNested_eq]
    rw [parseTokens, readNested_eq] at h
    exact Progress.readSequence_permissive_eq (agreeOnBalanced_bodyReader? _ _ maxDepth) h
  · intro offset
    exact readNested_permissive_ne_unclosedParen maxDepth ts offset

/-- Parentheses as values, as fields and around nothing are read the same in both modes. -/
theorem parseTokens_permissive_eq_stray :
    parseTokens .permissive
        [.bare "(" 0, .bare "a" 2, .bare "=" 4, .bare "(" 6, .bare "and" 8, .bare ")" 12,
          .bare "=" 14, .bare "b" 16, .bare ")" 18] =
      .ok (.group .and [.condition ⟨"a", .equals, "("⟩, .condition ⟨")", .equals, "b"⟩]) ∧
    parseTokens .permissive [.bare "(" 0, .bare ")" 2, .bare "(" 4] = .error (.emptyGroup 0) := by
  have hread : parseTokens .strict
      [.bare "(" 0, .bare "a" 2, .bare "=" 4, .bare "(" 6, .bare "and" 8, .bare ")" 12,
        .bare "=" 14, .bare "b" 16, .bare ")" 18] =
      .ok (.group .and [.condition ⟨"a", .equals, "("⟩, .condition ⟨")", .equals, "b"⟩]) := by
    decide +kernel
  have hrefused : parseTokens .strict [.bare "(" 0, .bare ")" 2, .bare "(" 4] =
      .error (.emptyGroup 0) := by
    decide +kernel
  constructor
  · rw [(parseTokens_permissive_eq _).1 (by simp [hread]), hread]
  · rw [(parseTokens_permissive_eq _).1 (by simp [hrefused]), hrefused]

end RecordFilter
