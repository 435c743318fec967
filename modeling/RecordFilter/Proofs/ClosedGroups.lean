import Mathlib.Control.Monad.Basic
import Mathlib.Data.List.Induction
import RecordFilter.Proofs.UnclosedParens

/-!
# What a closing parenthesis cuts out

The inside of parentheses is cut out before it is read, by a count that takes in every bare
parenthesis, and it is then read as a sequence of its own, which counts anew and from another place:
it passes over a parenthesis that is a field or a value. What a closing parenthesis cuts out is
balanced all the same, so a parenthesis that opens anywhere in it is closed in it
(`Balanced.closedIn`), and no reading of it ends inside parentheses.

So an unclosed parenthesis is one that the outermost reading takes for the first token of a term,
with no counterpart among all the tokens after it (`parseTokens_strict_eq_unclosedParen_iff`).
-/

namespace RecordFilter

/-- A parenthesis that is open before the tokens is closed among them: there is a closing one with
nothing but a balanced piece before it. -/
def ClosedIn (ts : List Token) : Prop :=
  ∃ inside closing rest,
    ts = inside ++ closing :: rest ∧ Balanced inside ∧ closing.isClosing = true

/-- Each opening parenthesis of the piece is closed in the piece, wherever in it the count
begins. -/
def SelfContained (ts : List Token) : Prop :=
  ∀ before opening after,
    ts = before ++ opening :: after → opening.isOpening = true → ClosedIn after

/-- The reading of `ts` cuts out the inside of parentheses, because it meets the matching one. -/
def CutsOut (body? : Option BodyReader) (ts inside : List Token) : Prop :=
  ∃ before closing after p opening, ts = before ++ closing :: after ∧
    Progress.start.run body? before = .ok p ∧ p.phase = .body opening 0 inside.reverse ∧
    closing.isClosing = true

/-- The reading of `ts` comes to the end of it inside parentheses. -/
def LeavesOpen (body? : Option BodyReader) (ts inside : List Token) : Prop :=
  ∃ p opening d, Progress.start.run body? ts = .ok p ∧ p.phase = .body opening d inside.reverse

/-- The sequences that are read in the course of reading `ts`, and how many levels are left in
each: `ts` itself, with all of them, and what is cut out of one of them, with one less. -/
inductive ReadInside (mode : ParseMode) (ts : List Token) : (levels : Nat) → List Token → Prop
  | outermost : ReadInside mode ts maxDepth ts
  /-- A closing parenthesis cuts out what is read. -/
  | closed {levels : Nat} {us inside : List Token} (h : ReadInside mode ts (levels + 1) us)
    (hcut : CutsOut (bodyReader? mode (levels + 1)) us inside) : ReadInside mode ts levels inside
  /-- The end of the tokens cuts out what is read. -/
  | leftOpen {levels : Nat} {us inside : List Token} (hmode : mode = .permissive)
    (h : ReadInside mode ts (levels + 1) us)
    (hcut : LeavesOpen (bodyReader? mode (levels + 1)) us inside) :
    ReadInside mode ts levels inside

variable {mode : ParseMode} {body? : Option BodyReader} {levels : Nat}
  {ts us inside : List Token}

/-! ## Counting in a balanced piece -/

/-- Where the count closes more than is open, it does so at a closing parenthesis, with nothing left
open by the piece before it. -/
theorem unclosedAfter_eq_none_iff {n : Nat} :
    unclosedAfter n ts = none ↔
      ∃ piece closing rest, ts = piece ++ closing :: rest ∧
        unclosedAfter n piece = some 0 ∧ closing.isClosing = true := by
  constructor
  · intro h
    induction ts generalizing n with
    | nil => cases h
    | cons t ts ih =>
      rcases t.paren_cases with ⟨ho, hc⟩ | ⟨ho, hc⟩ | ⟨ho, hc⟩
      · rw [unclosedAfter_opening _ _ ho] at h
        obtain ⟨piece, closing, rest, rfl, hpiece, hclosing⟩ := ih h
        refine ⟨t :: piece, closing, rest, rfl, ?_, hclosing⟩
        rwa [unclosedAfter_opening _ _ ho]
      · cases n with
        | zero => exact ⟨[], t, ts, rfl, rfl, hc⟩
        | succ n =>
          rw [unclosedAfter_closing_succ _ _ hc] at h
          obtain ⟨piece, closing, rest, rfl, hpiece, hclosing⟩ := ih h
          refine ⟨t :: piece, closing, rest, rfl, ?_, hclosing⟩
          rwa [unclosedAfter_closing_succ _ _ hc]
      · rw [unclosedAfter_other _ _ ho hc] at h
        obtain ⟨piece, closing, rest, rfl, hpiece, hclosing⟩ := ih h
        refine ⟨t :: piece, closing, rest, rfl, ?_, hclosing⟩
        rwa [unclosedAfter_other _ _ ho hc]
  · rintro ⟨piece, closing, rest, rfl, hpiece, hclosing⟩
    rw [unclosedAfter_append, hpiece]
    exact unclosedAfter_closing_zero _ hclosing

theorem closedIn_iff : ClosedIn ts ↔ unclosedAfter 0 ts = none := by
  rw [unclosedAfter_eq_none_iff]
  simp only [ClosedIn, balanced_iff]

theorem Balanced.selfContained (h : Balanced ts) : SelfContained ts := by
  rintro before opening after rfl hopening
  rw [closedIn_iff]
  exact h.unclosedAfter_eq_none hopening

/-! ## What is cut out -/

theorem CutsOut.balanced (h : CutsOut body? ts inside) : Balanced inside := by
  obtain ⟨before, closing, after, p, opening, -, hrun, hphase, -⟩ := h
  have hbalanced := (Progress.recalls_of_run hrun).balanced_inside hphase
  rwa [List.reverse_reverse] at hbalanced

/-- Strictly, only a closing parenthesis cuts out what is read. -/
theorem ReadInside.balanced (h : ReadInside .strict ts levels us) (hlevels : levels < maxDepth) :
    Balanced us := by
  cases h with
  | outermost => exact absurd hlevels (Nat.lt_irrefl maxDepth)
  | closed _ hcut => exact hcut.balanced
  | leftOpen hmode _ _ => cases hmode

/-- In balanced tokens no parenthesis is unclosed, and permission to leave one open changes
nothing. -/
theorem Balanced.readNested_ne_unclosedParen (h : Balanced ts) (levels offset : Nat) :
    readNested mode levels ts ≠ .error (.unclosedParen offset) := by
  have hcongr : readNested mode levels ts = readNested .permissive levels ts := by
    rw [readNested_eq, readNested_eq]
    exact Progress.readSequence_congr_of_balanced
      (agreeOnBalanced_bodyReader? mode .permissive levels) h
  rw [hcongr]
  exact readNested_permissive_ne_unclosedParen levels ts offset

/-! ## Parentheses that are not closed -/

namespace Progress

variable {p q : Progress} {opening : Token} {d offset : Nat}

/-- Where a run is inside parentheses, it has taken the one that opens them for the first token of a
term. -/
theorem exists_takes_of_run (h : start.run body? ts = .ok p)
    (hphase : p.phase = .body opening d inside) :
    ∃ before q, ts = before ++ opening :: inside.reverse ∧ start.run body? before = .ok q ∧
      q.Takes opening := by
  induction ts using List.reverseRecOn generalizing p d inside with
  | nil =>
    cases h
    cases hphase
  | append_singleton us t ih =>
    rw [run_append] at h
    obtain ⟨q, hq, hstep⟩ := bind_eq_ok_iff.1 h
    rw [run_cons] at hstep
    obtain ⟨r, hr, hnil⟩ := bind_eq_ok_iff.1 hstep
    cases hnil
    cases moves_of_step hr with
    | alternative hbetween _ =>
      rw [endConjunction_phase, hbetween] at hphase
      cases hphase
    | conjunction _ _ => cases hphase
    | group htakes _ _ =>
      cases hphase
      exact ⟨us, q, rfl, hq, htakes⟩
    | field _ _ => cases hphase
    | operator _ _ => cases hphase
    | value _ => cases hphase
    | inside hbody _ =>
      cases hphase
      obtain ⟨before, r, rfl, hrun, htakes⟩ := ih hq hbody
      exact ⟨before, r, by simp, hrun, htakes⟩
    | close _ _ _ _ _ => cases hphase

/-- Tokens in which a parenthesis is taken and never closed are read to their end. -/
theorem run_of_not_closedIn (hp : p.Takes opening) (hopening : opening.isOpening = true)
    (hbody : body?.isSome = true) (hrest : ¬ ClosedIn ts) :
    ∃ q d, p.run body? (opening :: ts) = .ok q ∧ q.phase = .body opening d ts.reverse := by
  rw [closedIn_iff] at hrest
  obtain ⟨d, hd⟩ := Option.ne_none_iff_exists'.1 hrest
  have hstep : p.step body? opening = .ok { p with phase := .body opening 0 [] } := by
    rw [hp.step, beginTerm, if_pos hopening, if_pos hbody]
  rw [run_cons, hstep, ok_bind, run_body hd, List.append_nil]
  exact ⟨_, d, rfl, rfl⟩

/-- A strict reading finds a parenthesis unclosed in two ways: it takes it for the first token of a
term and comes to the end, or the reading of something balanced does. -/
theorem unclosed_or_inside (h : readSequence .strict body? ts = .error (.unclosedParen offset)) :
    (∃ before opening rest p, ts = before ++ opening :: rest ∧
      start.run body? before = .ok p ∧ p.Takes opening ∧ opening.isOpening = true ∧
      ¬ ClosedIn rest ∧ opening.offset = offset) ∨
    ∃ body inside, body? = some body ∧ Balanced inside ∧
      body inside = .error (.unclosedParen offset) := by
  rcases refuses_of_readSequence h with
    ⟨before, t, after, p, -, hrun, hrefuses⟩ | ⟨p, hrun, hrefuses⟩
  · right
    cases hrefuses with
    | @close opening inside _ hphase _ hgroup =>
      cases hgroup with
      | inside hbody he => exact ⟨_, _, hbody, (recalls_of_run hrun).balanced_inside hphase, he⟩
  · left
    cases hrefuses with
    | @unclosed opening d inside _ hphase =>
      obtain ⟨hopening, hdepth, -⟩ := (recalls_of_run hrun).body hphase
      obtain ⟨before, q, hts, hbefore, htakes⟩ := exists_takes_of_run hrun hphase
      refine ⟨before, opening, inside.reverse, q, hts, hbefore, htakes, hopening, ?_, rfl⟩
      rw [closedIn_iff, hdepth]
      exact Option.some_ne_none d
    | close hmode _ _ => cases hmode

end Progress

/-- Strictly read, tokens are refused for an unclosed parenthesis exactly if the outermost reading
takes one for the first token of a term and it is not closed among all the tokens after it. -/
theorem parseTokens_strict_eq_unclosedParen_iff {offset : Nat} :
    parseTokens .strict ts = .error (.unclosedParen offset) ↔
      ∃ before opening rest p, ts = before ++ opening :: rest ∧
        Progress.start.run (bodyReader? .strict maxDepth) before = .ok p ∧ p.Takes opening ∧
        opening.isOpening = true ∧ ¬ ClosedIn rest ∧ opening.offset = offset := by
  rw [parseTokens, readNested_eq]
  constructor
  · intro h
    rcases Progress.unclosed_or_inside h with houtermost | ⟨body, inside, hbody, hbalanced, he⟩
    · exact houtermost
    · obtain rfl : readNested .strict 63 = body := Option.some.inj hbody
      exact absurd he (hbalanced.readNested_ne_unclosedParen 63 offset)
  · rintro ⟨before, opening, rest, p, rfl, hrun, htakes, hopening, hrest, rfl⟩
    have hlevels : (bodyReader? .strict maxDepth).isSome = true := rfl
    obtain ⟨q, d, hq, hphase⟩ := Progress.run_of_not_closedIn htakes hopening hlevels hrest
    rw [Progress.readSequence_eq_run, Progress.run_append_of_ok hrun, hq, ok_bind,
      Progress.finish, hphase]

/-- In whatever sequence a closing parenthesis cuts out the inside of a group, each parenthesis that
opens in it is closed in it. So the strict reading of what stands inside parentheses never finds one
unclosed, and one that is reported is one that the outermost reading takes. -/
theorem parseTokens_closedGroups (mode : ParseMode) (ts : List Token) :
    (∀ levels us inside, ReadInside mode ts levels us →
      CutsOut (bodyReader? mode levels) us inside → SelfContained inside) ∧
    (∀ levels us offset, ReadInside .strict ts levels us → levels < maxDepth →
      readNested .strict levels us ≠ .error (.unclosedParen offset)) ∧
    ∀ offset, parseTokens .strict ts = .error (.unclosedParen offset) ↔
      ∃ before opening rest p, ts = before ++ opening :: rest ∧
        Progress.start.run (bodyReader? .strict maxDepth) before = .ok p ∧ p.Takes opening ∧
        opening.isOpening = true ∧ ¬ ClosedIn rest ∧ opening.offset = offset := by
  refine ⟨?_, ?_, fun offset => parseTokens_strict_eq_unclosedParen_iff⟩
  · intro levels us inside _ hcut
    exact hcut.balanced.selfContained
  · intro levels us offset hread hlevels
    exact (hread.balanced hlevels).readNested_ne_unclosedParen levels offset

/-- One parenthesis is a value and one is a field, which the reading of the inside does not count.
They are counterparts to the count that cuts it out, and the parenthesis that is not closed stands
outside. -/
theorem parseTokens_closedGroups_values :
    let inside : List Token := [.bare "a" 1, .bare "=" 3, .bare "(" 5, .bare "and" 7,
      .bare ")" 11, .bare "=" 13, .bare "b" 15]
    let ts := .bare "(" 0 :: (inside ++ [.bare ")" 16, .bare "and" 18, .bare "(" 22, .bare "c" 23])
    SelfContained inside ∧
    (∀ offset, readNested .strict 63 inside ≠ .error (.unclosedParen offset)) ∧
    parseTokens .strict ts = .error (.unclosedParen 22) ∧
    ∃ before opening rest, ts = before ++ opening :: rest ∧ opening.offset = 22 ∧
      ¬ ClosedIn rest := by
  intro inside ts
  have htakes : Progress.start.Takes (.bare "(" 0) :=
    .inr ⟨rfl, rfl, Token.opensTerm_of_isOpening rfl⟩
  have hstep : Progress.start.step (bodyReader? .strict maxDepth) (.bare "(" 0) =
      .ok { Progress.start with phase := .body (.bare "(" 0) 0 [] } := htakes.step
  have hinside : unclosedAfter 0 inside = some 0 := by decide +kernel
  have hrun : Progress.start.run (bodyReader? .strict maxDepth) (.bare "(" 0 :: inside) =
      .ok ⟨[], [], .body (.bare "(" 0) 0 inside.reverse⟩ := by
    rw [Progress.run_cons, hstep, ok_bind]
    exact Progress.run_body hinside [] [] _ []
  have hcut : CutsOut (bodyReader? .strict maxDepth) ts inside :=
    ⟨.bare "(" 0 :: inside, .bare ")" 16, _, _, _, rfl, hrun, rfl, rfl⟩
  have hparse : parseTokens .strict ts = .error (.unclosedParen 22) := by decide +kernel
  obtain ⟨hclosed, hnested, hunclosed⟩ := parseTokens_closedGroups .strict ts
  obtain ⟨before, opening, rest, p, hts, -, -, -, hrest, hoffset⟩ := (hunclosed 22).1 hparse
  refine ⟨hclosed maxDepth ts inside .outermost hcut, fun offset => ?_, hparse,
    before, opening, rest, hts, hoffset, hrest⟩
  exact hnested 63 inside offset (.closed .outermost hcut) (by decide)

end RecordFilter
