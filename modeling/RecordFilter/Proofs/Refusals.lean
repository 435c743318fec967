import RecordFilter.Proofs.Reading

/-!
# Where a reading stops

A reading fails at one token or at the end. `Progress.Refuses` lists all that can be wrong with a
token, `Progress.RefusesEnd` all that can be wrong with the end, and
`Progress.refuses_of_readSequence` says that nothing else makes a sequence fail; the outcome of a
failed reading is looked up in these lists, as that of a step taken is in `Progress.Moves`.

What a progress keeps of the term it is in the middle of is what was read last
(`Progress.Recalls`). So each error is about one of the tokens: it has the token's offset, and the
token is of the kind that the error speaks of (`ParseError.IsAbout`).
-/

namespace RecordFilter

namespace Progress

variable {mode : ParseMode} {body? : Option BodyReader} {p q : Progress} {t : Token}
  {ts : List Token} {e : ParseError}

/-! ## What a progress keeps -/

/-- What the progress keeps of an unfinished term is what was read last. -/
def Recalls (ts : List Token) (p : Progress) : Prop :=
  match p.phase with
  | .between => True
  | .term conjunction => conjunction.isKeyword "and" = true ∧ ∃ us, ts = us ++ [conjunction]
  | .operator field => ∃ us, ts = us ++ [field]
  | .value field o symbol => symbol.isSymbol o.symbol = true ∧ ∃ us, ts = us ++ [field, symbol]
  | .body opening d inside =>
    opening.isOpening = true ∧ unclosedAfter 0 inside.reverse = some d ∧
      ∃ us, ts = us ++ opening :: inside.reverse

namespace Recalls

variable {conjunction field symbol opening : Token} {o : Operator} {d : Nat} {inside : List Token}

theorem term (h : p.Recalls ts) (hphase : p.phase = .term conjunction) :
    conjunction.isKeyword "and" = true ∧ ∃ us, ts = us ++ [conjunction] := by
  simpa only [Recalls, hphase] using h

theorem operator (h : p.Recalls ts) (hphase : p.phase = .operator field) :
    ∃ us, ts = us ++ [field] := by
  simpa only [Recalls, hphase] using h

theorem value (h : p.Recalls ts) (hphase : p.phase = .value field o symbol) :
    symbol.isSymbol o.symbol = true ∧ ∃ us, ts = us ++ [field, symbol] := by
  simpa only [Recalls, hphase] using h

theorem body (h : p.Recalls ts) (hphase : p.phase = .body opening d inside) :
    opening.isOpening = true ∧ unclosedAfter 0 inside.reverse = some d ∧
      ∃ us, ts = us ++ opening :: inside.reverse := by
  simpa only [Recalls, hphase] using h

/-- Where a parenthesis ends a group, what it cuts out is balanced. -/
theorem balanced_inside (h : p.Recalls ts) (hphase : p.phase = .body opening 0 inside) :
    Balanced inside.reverse :=
  balanced_iff.2 (h.body hphase).2.1

end Recalls

theorem Recalls.moves (h : p.Recalls ts) (hmoves : Moves body? p t q) :
    q.Recalls (ts ++ [t]) := by
  cases hmoves with
  | alternative hphase _ =>
    simp only [Recalls, endConjunction_phase, hphase]
  | conjunction _ ht => exact ⟨ht, ts, rfl⟩
  | group _ ht _ => exact ⟨ht, rfl, ts, rfl⟩
  | field _ _ => exact ⟨ts, rfl⟩
  | operator hphase ht =>
    obtain ⟨us, rfl⟩ := h.operator hphase
    exact ⟨ht, us, by simp⟩
  | value _ => exact trivial
  | inside hphase hd =>
    obtain ⟨hopening, hdepth, us, rfl⟩ := h.body hphase
    refine ⟨hopening, ?_, us, by simp⟩
    rw [List.reverse_cons, unclosedAfter_append, hdepth]
    exact hd
  | close _ _ _ _ _ => exact trivial

theorem recalls_of_run (h : start.run body? ts = .ok p) : p.Recalls ts := by
  have hstart : start.Recalls [] := trivial
  exact invariant_run (P := fun us p => p.Recalls us)
    (fun _ _ _ _ hp hmoves => hp.moves hmoves) [] hstart h

/-! ## All that can be wrong -/

/-- What is wrong with parentheses, given what stands inside. -/
inductive RefusesGroup (body? : Option BodyReader) (opening : Token) (inside : List Token) :
    ParseError → Prop
  /-- There may be no parentheses here. -/
  | tooDeep (hbody : body? = none) : RefusesGroup body? opening inside (.tooDeep opening.offset)
  /-- What stands inside is wrong. -/
  | inside {body : BodyReader} {e : ParseError} (hbody : body? = some body)
    (he : body inside = .error e) : RefusesGroup body? opening inside e
  /-- What stands inside restricts nothing. -/
  | empty {body : BodyReader} {e : Expr} (hbody : body? = some body) (he : body inside = .ok e)
    (hv : e.isVacuous = true) : RefusesGroup body? opening inside (.emptyGroup opening.offset)

/-- What is wrong with the token `t` after the progress `p`. -/
inductive Refuses (body? : Option BodyReader) (p : Progress) (t : Token) : ParseError → Prop
  /-- A parenthesis closes where a term should begin. -/
  | closing (hphase : p.phase = .between) (ht : t.isClosing = true) :
    Refuses body? p t (.unexpectedCloseParen t.offset)
  /-- A term begins with no conjunction before it. -/
  | unannounced (hphase : p.phase = .between) (hterms : p.terms ≠ []) (ht : t.OpensTerm) :
    Refuses body? p t (.missingAnd t.display t.offset)
  /-- A parenthesis opens where there may be none. -/
  | opening (hp : p.Takes t) (ht : t.isOpening = true) (hbody : body? = none) :
    Refuses body? p t (.tooDeep t.offset)
  /-- What comes after a field is no operator. -/
  | operator {field : Token} (hphase : p.phase = .operator field) (ht : t.operator? = none) :
    Refuses body? p t (.invalidOperation t.display t.offset)
  /-- The matching parenthesis ends a group, and that is wrong. -/
  | close {opening : Token} {inside : List Token} {e : ParseError}
    (hphase : p.phase = .body opening 0 inside) (ht : t.isClosing = true)
    (h : RefusesGroup body? opening inside.reverse e) : Refuses body? p t e

/-- What is wrong with the end of the sequence after the progress `p`. -/
inductive RefusesEnd (mode : ParseMode) (body? : Option BodyReader) (p : Progress) :
    ParseError → Prop
  | term {conjunction : Token} (hphase : p.phase = .term conjunction) :
    RefusesEnd mode body? p (.missingTerm conjunction.offset)
  | operator {field : Token} (hphase : p.phase = .operator field) :
    RefusesEnd mode body? p (.missingOperation field.offset)
  | value {field symbol : Token} {o : Operator} (hphase : p.phase = .value field o symbol) :
    RefusesEnd mode body? p (.missingValue symbol.offset)
  /-- The end may not close the parentheses that are open. -/
  | unclosed {opening : Token} {d : Nat} {inside : List Token} (hmode : mode = .strict)
    (hphase : p.phase = .body opening d inside) :
    RefusesEnd mode body? p (.unclosedParen opening.offset)
  /-- The end closes the parentheses that are open, and that is wrong. -/
  | close {opening : Token} {d : Nat} {inside : List Token} {e : ParseError}
    (hmode : mode = .permissive) (hphase : p.phase = .body opening d inside)
    (h : RefusesGroup body? opening inside.reverse e) : RefusesEnd mode body? p e

theorem refusesGroup_of_closeGroup {opening : Token} {inside : List Token}
    (h : p.closeGroup body? opening inside = .error e) :
    RefusesGroup body? opening inside.reverse e := by
  unfold closeGroup at h
  split at h
  next =>
    cases h
    exact .tooDeep rfl
  next body =>
    cases he : body inside.reverse with
    | error e' =>
      rw [he] at h
      cases h
      exact .inside rfl he
    | ok tree =>
      rw [he, ok_bind] at h
      split at h
      next hv =>
        cases h
        exact .empty rfl he hv
      next => cases h

theorem refuses_of_beginTerm (hp : p.Takes t) (h : p.beginTerm body? t = .error e) :
    Refuses body? p t e := by
  unfold beginTerm at h
  split at h
  next ht =>
    split at h
    next => cases h
    next hbody =>
      cases h
      exact .opening hp ht (by simpa using hbody)
  next => cases h

/-- A token that is refused is wrong in one of the ways listed. -/
theorem refuses_of_step (h : p.step body? t = .error e) : Refuses body? p t e := by
  unfold step at h
  split at h
  next hphase =>
    split at h
    next hclose =>
      cases h
      exact .closing hphase hclose
    next hclose =>
      split at h
      next => cases h
      next hor =>
        split at h
        next => cases h
        next hand =>
          have hopens : t.OpensTerm :=
            ⟨Bool.eq_false_iff.2 hclose, Bool.eq_false_iff.2 hor, Bool.eq_false_iff.2 hand⟩
          split at h
          next hterms =>
            exact refuses_of_beginTerm (.inr ⟨hphase, List.isEmpty_iff.1 hterms, hopens⟩) h
          next hterms =>
            cases h
            exact .unannounced hphase (by simpa using hterms) hopens
  next conjunction hphase => exact refuses_of_beginTerm (.inl ⟨conjunction, hphase⟩) h
  next field hphase =>
    split at h
    next => cases h
    next ht =>
      cases h
      exact .operator hphase ht
  next => cases h
  next opening d inside hphase =>
    split at h
    next => cases h
    next =>
      split at h
      next ht =>
        split at h
        next => exact .close hphase ht (refusesGroup_of_closeGroup h)
        next => cases h
      next => cases h

/-- An end that is refused is wrong in one of the ways listed. -/
theorem refusesEnd_of_finish (h : p.finish mode body? = .error e) : RefusesEnd mode body? p e := by
  unfold finish at h
  split at h
  next => cases h
  next hphase =>
    cases h
    exact .term hphase
  next hphase =>
    cases h
    exact .operator hphase
  next hphase =>
    cases h
    exact .value hphase
  next opening d inside hphase =>
    cases mode with
    | strict =>
      cases h
      exact .unclosed rfl hphase
    | permissive =>
      cases hclose : p.closeGroup body? opening inside with
      | error e' =>
        simp only [hclose] at h
        cases h
        exact .close rfl hphase (refusesGroup_of_closeGroup hclose)
      | ok q =>
        simp only [hclose] at h
        cases h

/-- A run that fails does so at one token, and all before it is read. -/
theorem exists_refuses_of_run (h : p.run body? ts = .error e) :
    ∃ us t vs q, ts = us ++ t :: vs ∧ p.run body? us = .ok q ∧ Refuses body? q t e := by
  induction ts generalizing p with
  | nil => cases h
  | cons t ts ih =>
    rw [run_cons] at h
    cases hstep : p.step body? t with
    | error e' =>
      rw [hstep] at h
      cases h
      exact ⟨[], t, ts, p, rfl, rfl, refuses_of_step hstep⟩
    | ok r =>
      rw [hstep, ok_bind] at h
      obtain ⟨us, u, vs, q, rfl, hrun, hrefuses⟩ := ih h
      refine ⟨t :: us, u, vs, q, rfl, ?_, hrefuses⟩
      rw [run_cons, hstep, ok_bind]
      exact hrun

/-- A sequence that fails is refused at one of its tokens or at its end. -/
theorem refuses_of_readSequence (h : readSequence mode body? ts = .error e) :
    (∃ us t vs p, ts = us ++ t :: vs ∧ start.run body? us = .ok p ∧ Refuses body? p t e) ∨
      ∃ p, start.run body? ts = .ok p ∧ RefusesEnd mode body? p e := by
  rw [readSequence_eq_run] at h
  cases hrun : start.run body? ts with
  | error e' =>
    rw [hrun] at h
    cases h
    exact .inl (exists_refuses_of_run hrun)
  | ok p =>
    rw [hrun, ok_bind] at h
    exact .inr ⟨p, rfl, refusesEnd_of_finish h⟩

end Progress

/-! ## The token that an error is about -/

/-- The error is about the token: it has the token's offset, shows the token if it shows one, and
the token is of the kind that such errors are about. -/
def ParseError.IsAbout (t : Token) : ParseError → Prop
  | .unexpectedCloseParen offset => offset = t.offset ∧ t.isClosing = true
  | .unclosedParen offset => offset = t.offset ∧ t.isOpening = true
  | .emptyGroup offset => offset = t.offset ∧ t.isOpening = true
  | .missingAnd token offset => offset = t.offset ∧ token = t.display
  | .missingTerm offset => offset = t.offset ∧ t.isKeyword "and" = true
  | .tooDeep offset => offset = t.offset ∧ t.isOpening = true
  | .missingOperation offset => offset = t.offset
  | .invalidOperation token offset => offset = t.offset ∧ token = t.display
  | .missingValue offset => offset = t.offset ∧ ∃ o : Operator, t.isSymbol o.symbol = true

theorem ParseError.IsAbout.offset_eq {t : Token} {e : ParseError} (h : e.IsAbout t) :
    e.offset = t.offset := by
  cases e with
  | missingOperation offset => exact h
  | _ => exact h.1

/-- Each error of the reader is about one of the tokens read. -/
def BodyReader.BlamesTokens (body : BodyReader) : Prop :=
  ∀ ts e, body ts = .error e → ∃ t ∈ ts, e.IsAbout t

namespace Progress

variable {mode : ParseMode} {body? : Option BodyReader} {p : Progress} {t : Token}
  {ts : List Token} {e : ParseError}
  (hbody : ∀ body, body? = some body → body.BlamesTokens)
include hbody

theorem RefusesGroup.exists_isAbout {opening : Token} {inside : List Token}
    (h : RefusesGroup body? opening inside e) (hopening : opening.isOpening = true) :
    ∃ t ∈ opening :: inside, e.IsAbout t := by
  cases h with
  | tooDeep _ => exact ⟨opening, List.mem_cons_self, rfl, hopening⟩
  | inside hsome he =>
    obtain ⟨t, ht, habout⟩ := hbody _ hsome _ _ he
    exact ⟨t, List.mem_cons_of_mem opening ht, habout⟩
  | empty _ _ _ => exact ⟨opening, List.mem_cons_self, rfl, hopening⟩

theorem Refuses.exists_isAbout (h : Refuses body? p t e) (hp : p.Recalls ts) :
    ∃ u ∈ ts ++ [t], e.IsAbout u := by
  have ht : t ∈ ts ++ [t] := List.mem_append_right ts (List.mem_singleton_self t)
  cases h with
  | closing _ hclosing => exact ⟨t, ht, rfl, hclosing⟩
  | unannounced _ _ _ => exact ⟨t, ht, rfl, rfl⟩
  | opening _ hopening _ => exact ⟨t, ht, rfl, hopening⟩
  | operator _ _ => exact ⟨t, ht, rfl, rfl⟩
  | close hphase _ hgroup =>
    obtain ⟨hopening, -, us, rfl⟩ := hp.body hphase
    obtain ⟨u, hu, habout⟩ := hgroup.exists_isAbout hbody hopening
    exact ⟨u, List.mem_append_left _ (List.mem_append_right us hu), habout⟩

theorem RefusesEnd.exists_isAbout (h : RefusesEnd mode body? p e) (hp : p.Recalls ts) :
    ∃ u ∈ ts, e.IsAbout u := by
  cases h with
  | term hphase =>
    obtain ⟨hand, us, rfl⟩ := hp.term hphase
    exact ⟨_, by simp, rfl, hand⟩
  | operator hphase =>
    obtain ⟨us, rfl⟩ := hp.operator hphase
    exact ⟨_, by simp, rfl⟩
  | @value field symbol o hphase =>
    obtain ⟨hsymbol, us, rfl⟩ := hp.value hphase
    exact ⟨symbol, by simp, rfl, o, hsymbol⟩
  | unclosed _ hphase =>
    obtain ⟨hopening, -, us, rfl⟩ := hp.body hphase
    exact ⟨_, by simp, rfl, hopening⟩
  | close _ hphase hgroup =>
    obtain ⟨hopening, -, us, rfl⟩ := hp.body hphase
    obtain ⟨u, hu, habout⟩ := hgroup.exists_isAbout hbody hopening
    exact ⟨u, List.mem_append_right us hu, habout⟩

theorem blamesTokens_readSequence (mode : ParseMode) :
    BodyReader.BlamesTokens (readSequence mode body?) := by
  intro ts e h
  rcases refuses_of_readSequence h with ⟨us, t, vs, p, rfl, hrun, hrefuses⟩ | ⟨p, hrun, hrefuses⟩
  · obtain ⟨u, hu, habout⟩ := hrefuses.exists_isAbout hbody (recalls_of_run hrun)
    refine ⟨u, ?_, habout⟩
    rw [List.append_cons]
    exact List.mem_append_left vs hu
  · exact hrefuses.exists_isAbout hbody (recalls_of_run hrun)

end Progress

theorem blamesTokens_readNested (mode : ParseMode) (levels : Nat) :
    BodyReader.BlamesTokens (readNested mode levels) :=
  readNested_induct (fun _ hbody => Progress.blamesTokens_readSequence hbody mode) levels

end RecordFilter
