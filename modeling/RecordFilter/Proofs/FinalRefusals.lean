import Mathlib.Control.Monad.Basic
import RecordFilter.Proofs.Refusals

/-!
# Refusals that more tokens cannot mend

A strict reading is refused at one of its tokens or at its end. In the first case the tokens after
it are never looked at, so the refusal stands whatever they are
(`Progress.readSequence_append_of_run`). What stands inside parentheses makes no difference to that:
it is cut out by a token that is there, and more tokens at the end do not change it.

The refusals that are *final* by their kind are those that the end does not give
(`Progress.RefusesEnd.isFinal_eq`). All that is refused at its end, outside parentheses, can be
finished (`Progress.RefusesEnd.exists_finished`).
-/

namespace RecordFilter

/-- Whether the error is one that more tokens at the end never mend. -/
def ParseError.isFinal : ParseError → Bool
  | .unexpectedCloseParen _ => true
  | .unclosedParen _ => false
  | .emptyGroup _ => true
  | .missingAnd _ _ => true
  | .missingTerm _ => false
  | .tooDeep _ => true
  | .missingOperation _ => false
  | .invalidOperation _ _ => true
  | .missingValue _ => false

namespace Progress

variable {mode : ParseMode} {body? : Option BodyReader} {p : Progress} {ts : List Token}
  {e : ParseError}

/-- A sequence that fails before its end fails in the same way with more tokens after it. -/
theorem readSequence_append_of_run (h : start.run body? ts = .error e) (us : List Token) :
    readSequence mode body? (ts ++ us) = .error e := by
  rw [readSequence_eq_run, run_append, h]
  rfl

/-- The end of a strict sequence is refused for nothing that is final. -/
theorem RefusesEnd.isFinal_eq (h : RefusesEnd .strict body? p e) : e.isFinal = false := by
  cases h with
  | term _ => rfl
  | operator _ => rfl
  | value _ => rfl
  | unclosed _ _ => rfl
  | close hmode _ _ => cases hmode

/-- A term that has been begun can be finished, if it is not in parentheses. -/
theorem RefusesEnd.exists_finished (h : RefusesEnd .strict body? p e) :
    (∃ offset, e = .unclosedParen offset) ∨
      ∃ us q, p.run body? us = .ok q ∧ q.phase = .between := by
  have hequals : (Token.bare "=" 0).operator? = some .equals := rfl
  cases h with
  | @term conjunction hphase =>
    have hfield : (Token.bare "a" 0).isOpening = false := rfl
    have htakes : p.Takes (.bare "a" 0) := .inl ⟨conjunction, hphase⟩
    have hsymbol := Token.operator?_eq_some_iff.1 hequals
    exact .inr ⟨_, _, run_condition htakes hfield hsymbol (.bare "b" 0), rfl⟩
  | @operator field hphase =>
    have hrun : p.run body? [.bare "=" 0, .bare "b" 0] =
        .ok (p.addTerm (.condition ⟨field.text, .equals, "b"⟩)) := by
      simp only [run_cons, step, hphase, hequals, ok_bind, run_nil]
      rfl
    exact .inr ⟨_, _, hrun, rfl⟩
  | @value field symbol o hphase =>
    have hrun : p.run body? [.bare "b" 0] =
        .ok (p.addTerm (.condition ⟨field.text, o, "b"⟩)) := by
      simp only [run_cons, step, hphase, ok_bind, run_nil]
      rfl
    exact .inr ⟨_, _, hrun, rfl⟩
  | unclosed _ _ => exact .inl ⟨_, rfl⟩
  | close hmode _ _ => cases hmode

/-- The two ways for a strict sequence to fail. -/
theorem final_or_refusesEnd (h : readSequence .strict body? ts = .error e) :
    (∀ us, readSequence .strict body? (ts ++ us) = .error e) ∨
      ∃ p, start.run body? ts = .ok p ∧ RefusesEnd .strict body? p e := by
  rw [readSequence_eq_run] at h
  cases hrun : start.run body? ts with
  | error e' =>
    rw [hrun] at h
    cases h
    exact .inl (readSequence_append_of_run hrun)
  | ok p =>
    rw [hrun, ok_bind] at h
    exact .inr ⟨p, rfl, refusesEnd_of_finish h⟩

theorem exists_readSequence_append {q : Progress} {us : List Token}
    (hrun : start.run body? ts = .ok p) (hmore : p.run body? us = .ok q)
    (hphase : q.phase = .between) : readSequence mode body? (ts ++ us) = .ok q.expr := by
  rw [readSequence_eq_run, run_append_of_ok hrun, hmore, ok_bind, finish, hphase]

end Progress

/-- Strictly read, tokens that are refused for a final error are refused for it whatever comes after
them. For any other error that may be so as well, and if it is not, more tokens can make a filter of
them, or the error is a parenthesis that has not been closed. -/
theorem parseTokens_strict_append {ts : List Token} {e : ParseError}
    (h : parseTokens .strict ts = .error e) :
    (e.isFinal = true → ∀ us, parseTokens .strict (ts ++ us) = .error e) ∧
    (e.isFinal = false →
      (∀ us, parseTokens .strict (ts ++ us) = .error e) ∨
      (∃ us tree, parseTokens .strict (ts ++ us) = .ok tree) ∨
      ∃ offset, e = .unclosedParen offset) := by
  simp only [parseTokens, readNested_eq] at h ⊢
  rcases Progress.final_or_refusesEnd h with hfinal | ⟨p, hrun, hend⟩
  · exact ⟨fun _ => hfinal, fun _ => .inl hfinal⟩
  · constructor
    · intro hfinal
      rw [hend.isFinal_eq] at hfinal
      cases hfinal
    · intro _
      rcases hend.exists_finished with hunclosed | ⟨us, q, hmore, hphase⟩
      · exact .inr (.inr hunclosed)
      · exact .inr (.inl ⟨us, q.expr, Progress.exists_readSequence_append hrun hmore hphase⟩)

/-- Empty parentheses inside closed ones stay empty, whatever comes after them. Parentheses that are
not closed yet can still be closed. -/
theorem parseTokens_strict_append_parens :
    (∀ us, parseTokens .strict
        ([.bare "(" 0, .bare "(" 1, .bare ")" 2, .bare ")" 3] ++ us) = .error (.emptyGroup 1)) ∧
    parseTokens .strict [.bare "(" 0] = .error (.unclosedParen 0) ∧
    parseTokens .strict
        ([.bare "(" 0] ++ [.bare "a" 1, .bare "=" 3, .bare "b" 5, .bare ")" 6]) =
      .ok (.condition ⟨"a", .equals, "b"⟩) := by
  have hempty : parseTokens .strict [.bare "(" 0, .bare "(" 1, .bare ")" 2, .bare ")" 3] =
      .error (.emptyGroup 1) := by
    decide +kernel
  exact ⟨(parseTokens_strict_append hempty).1 rfl, by decide +kernel, by decide +kernel⟩

end RecordFilter
