import RecordFilter.Proofs.Composition
import RecordFilter.Proofs.Refusals

/-!
# A conjunction is never implied

Where a sequence that restricts something could end, a term may not simply follow
(`Progress.readSequence_append_of_opensTerm`). What decides it is the progress there: unless the
last token was an `or`, it ended a term (`Progress.FollowsTerm`), and after a term only `and`, `or`
and the end are taken. For texts that says: a filter and another text with a space between are
refused at the first token of the other text, whatever comes after that.
-/

namespace RecordFilter

namespace Progress

variable {mode : ParseMode} {body? : Option BodyReader} {p q : Progress} {t : Token}
  {ts : List Token} {e : Expr}

/-- Between two terms, the last token was an `or` or ended a term. -/
def FollowsTerm (ts : List Token) (p : Progress) : Prop :=
  p.phase = .between → p.terms ≠ [] ∨ ∀ t ∈ ts.getLast?, t.isKeyword "or" = true

theorem FollowsTerm.moves (hmoves : Moves body? p t q) : q.FollowsTerm (ts ++ [t]) := by
  intro hphase
  cases hmoves with
  | alternative _ ht =>
    right
    intro u hu
    rw [List.getLast?_concat] at hu
    cases hu
    exact ht
  | conjunction _ _ => cases hphase
  | group _ _ _ => cases hphase
  | field _ _ => cases hphase
  | operator _ _ => cases hphase
  | value _ => exact .inl (List.cons_ne_nil _ _)
  | inside _ _ => cases hphase
  | close _ _ _ _ _ => exact .inl (List.cons_ne_nil _ _)

theorem followsTerm_of_run (h : start.run body? ts = .ok p) : p.FollowsTerm ts := by
  have hstart : start.FollowsTerm [] := fun _ => .inr (by simp)
  exact invariant_run (P := fun us p => p.FollowsTerm us)
    (fun _ _ _ _ _ hmoves => FollowsTerm.moves hmoves) [] hstart h

/-- After a term, another one is refused at its first token. -/
theorem step_of_opensTerm (hphase : p.phase = .between) (hterms : p.terms ≠ [])
    (ht : t.OpensTerm) : p.step body? t = .error (.missingAnd t.display t.offset) := by
  obtain ⟨hclosing, hor, hand⟩ := ht
  simp [step, hphase, hterms, hclosing, hor, hand]

/-- A sequence that restricts something and does not end in `or` ends in a term. -/
theorem exists_run_of_readSequence (h : readSequence .strict body? ts = .ok e)
    (he : e.isVacuous = false) (hlast : ∀ t ∈ ts.getLast?, t.isKeyword "or" = false) :
    ∃ p, start.run body? ts = .ok p ∧ p.phase = .between ∧ p.terms ≠ [] := by
  rw [readSequence_eq_run] at h
  obtain ⟨p, hrun, hfinish⟩ := bind_eq_ok_iff.1 h
  cases ends_of_finish hfinish with
  | between hphase =>
    refine ⟨p, hrun, hphase, ?_⟩
    rcases followsTerm_of_run hrun hphase with hterms | hor
    · exact hterms
    · cases hts : ts.getLast? with
      | none =>
        -- no token has been read, and what is read from none restricts nothing
        rw [List.getLast?_eq_none_iff.1 hts] at hrun
        cases hrun
        cases he
      | some t =>
        have hnot := hlast t hts
        rw [hor t hts] at hnot
        cases hnot
  | body hmode _ _ _ _ => cases hmode

/-- Where a sequence could end in a term, no other term may follow. -/
theorem readSequence_append_of_opensTerm (h : readSequence .strict body? ts = .ok e)
    (he : e.isVacuous = false) (hlast : ∀ t ∈ ts.getLast?, t.isKeyword "or" = false)
    (ht : t.OpensTerm) (us : List Token) :
    readSequence mode body? (ts ++ t :: us) = .error (.missingAnd t.display t.offset) := by
  obtain ⟨p, hrun, hphase, hterms⟩ := exists_run_of_readSequence h he hlast
  rw [readSequence_eq_run, run_append_of_ok hrun, run_cons, step_of_opensTerm hphase hterms ht]
  rfl

end Progress

/-- A filter text that restricts something and does not end in a bare `or`, and another text after a
space: the first token of the other text is refused, unless it is a bare `and`, `or` or `)`. -/
theorem parse_append_of_opensTerm {x y : String} {e : Expr} {ts us : List Token} {t : Token}
    (hx : parse .strict x = .ok e) (he : e.isVacuous = false) (hts : tokenize x = .ok ts)
    (hlast : ∀ u ∈ ts.getLast?, u.isKeyword "or" = false) (hy : tokenize y = .ok (t :: us))
    (ht : t.OpensTerm) :
    parse .strict (x ++ " " ++ y) =
      .error (.parse (.missingAnd t.display (x.length + 1 + t.offset))) := by
  have hspace : tokenize " " = .ok [] := rfl
  have htokens := tokenize_append_append hts hspace hy (by decide) rfl rfl
  rw [List.map_nil, List.append_nil, List.map_cons] at htokens
  have hread : readNested .strict maxDepth ts = .ok e := by
    rw [parse, hts, mapError_ok, ok_bind] at hx
    exact mapError_eq_ok_iff.1 hx
  have hopens := (keepsText_shift (x.length + " ".length)).opensTerm_map t ht
  rw [readNested_eq] at hread
  rw [parse, htokens, mapError_ok, ok_bind, parseTokens, readNested_eq,
    Progress.readSequence_append_of_opensTerm hread he hlast hopens]
  rfl

/-- A keyword as a value ends a term, and a keyword in quotes begins one. That what begins so is no
filter does not matter. -/
theorem parse_append_of_opensTerm_keywords :
    parse .strict ("(a = b) and c ~ and" ++ " " ++ " 'or' )(") =
      .error (.parse (.missingAnd "'or'" 21)) := by
  have hx : parse .strict "(a = b) and c ~ and" =
      .ok (.group .and [.condition ⟨"a", .equals, "b"⟩, .condition ⟨"c", .contains, "and"⟩]) := by
    decide +kernel
  have hlast : ∀ u ∈ [Token.bare "(" 0, .bare "a" 1, .bare "=" 3, .bare "b" 5, .bare ")" 6,
      .bare "and" 8, .bare "c" 12, .bare "~" 14, .bare "and" 16].getLast?,
      u.isKeyword "or" = false := by
    intro u hu
    cases hu
    decide
  have hopens : (Token.quoted "or" '\'' 1).OpensTerm := ⟨rfl, rfl, rfl⟩
  exact parse_append_of_opensTerm hx rfl rfl hlast rfl hopens

end RecordFilter
