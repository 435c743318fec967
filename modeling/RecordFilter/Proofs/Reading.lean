import RecordFilter.Expr.Parse
import RecordFilter.Proofs.Outcome
import RecordFilter.Proofs.Parens

/-!
# Runs of the reading of a sequence

`Progress.run` reads a piece of a sequence. There is one lemma for each thing that a term can be:
`Progress.run_condition` for a comparison, `Progress.run_group` for parentheses with a balanced
inside, `Progress.run_group_of_no_level` for parentheses where none may stand. What the lemmas ask
of the progress made so far is that it takes the next token for the first of a term
(`Progress.Takes`).

`Progress.Moves` lists all that one token can do to the progress, and `Progress.moves_of_step` says
that nothing else happens; an invariant of the reading is checked against that list.
-/

namespace RecordFilter

/-- The reader of the inside of parentheses, where they may nest `levels` deep. -/
def bodyReader? (mode : ParseMode) : (levels : Nat) → Option BodyReader
  | 0 => none
  | levels + 1 => some (readNested mode levels)

theorem readNested_eq (mode : ParseMode) (levels : Nat) :
    readNested mode levels = readSequence mode (bodyReader? mode levels) := by
  cases levels <;> rfl

/-- What holds of the reader of a sequence if it holds of the reader of what is inside parentheses,
however deep they may nest, holds of the reader of nested sequences. -/
theorem readNested_induct {mode : ParseMode} {P : BodyReader → Prop}
    (h : ∀ body?, (∀ body, body? = some body → P body) → P (readSequence mode body?))
    (levels : Nat) : P (readNested mode levels) := by
  induction levels with
  | zero =>
    rw [readNested_zero]
    refine h none ?_
    intro body hbody
    cases hbody
  | succ levels ih =>
    rw [readNested_succ]
    refine h (some (readNested mode levels)) ?_
    rintro body ⟨rfl⟩
    exact ih

/-- The token is no bare closing parenthesis and no bare keyword. -/
def Token.OpensTerm (t : Token) : Prop :=
  t.isClosing = false ∧ t.isKeyword "or" = false ∧ t.isKeyword "and" = false

theorem Token.isKeyword_of_isSymbol {t : Token} {s k : String} (hk : foldAscii s ≠ foldAscii k)
    (h : t.isSymbol s = true) : t.isKeyword k = false := by
  rw [isSymbol_iff] at h
  refine Bool.eq_false_iff.2 fun hkey => hk ?_
  rw [← (isKeyword_iff.1 hkey).2, h.2]

theorem Token.isSymbol_of_isKeyword {t : Token} {s k : String} (hk : foldAscii s ≠ foldAscii k)
    (h : t.isKeyword k = true) : t.isSymbol s = false := by
  refine Bool.eq_false_iff.2 fun hsymbol => ?_
  rw [isKeyword_of_isSymbol hk hsymbol] at h
  cases h

theorem Token.isOpening_of_isOperator {t : Token} {o : Operator}
    (h : t.isSymbol o.symbol = true) : t.isOpening = false := by
  refine Bool.eq_false_iff.2 fun hopening => ?_
  have hsame : "(" = o.symbol := (isSymbol_iff.1 hopening).2.symm.trans (isSymbol_iff.1 h).2
  cases o <;> exact absurd hsame (by decide)

theorem Token.opensTerm_of_isOpening {t : Token} (h : t.isOpening = true) : t.OpensTerm :=
  ⟨isClosing_of_isOpening h, isKeyword_of_isSymbol (by decide) h,
    isKeyword_of_isSymbol (by decide) h⟩

namespace Progress

variable {body? : Option BodyReader} {p q : Progress} {t : Token} {ts us : List Token}

/-- Reads several tokens. -/
def run (body? : Option BodyReader) (p : Progress) (ts : List Token) :
    Except ParseError Progress :=
  ts.foldlM (step body?) p

theorem readSequence_eq_run (mode : ParseMode) (body? : Option BodyReader) (ts : List Token) :
    readSequence mode body? ts = run body? start ts >>= finish mode body? := rfl

@[simp] theorem run_nil (body? : Option BodyReader) (p : Progress) :
    p.run body? [] = .ok p := rfl

theorem run_cons (body? : Option BodyReader) (p : Progress) (t : Token) (ts : List Token) :
    p.run body? (t :: ts) = p.step body? t >>= fun q => q.run body? ts := by
  rw [run, List.foldlM_cons]
  rfl

theorem run_append (body? : Option BodyReader) (p : Progress) (ts us : List Token) :
    p.run body? (ts ++ us) = p.run body? ts >>= fun q => q.run body? us := by
  rw [run, List.foldlM_append]
  rfl

theorem run_append_of_ok (h : p.run body? ts = .ok q) (us : List Token) :
    p.run body? (ts ++ us) = q.run body? us := by
  rw [run_append, h, ok_bind]

/-- The next thing may be a term: a first one, or one that an `and` announces. -/
def IsReady (p : Progress) : Prop :=
  (∃ conjunction, p.phase = .term conjunction) ∨ p.phase = .between ∧ p.terms = []

/-- The token is read as the first of a term: an `and` stands before it, or none has to and the
token is nothing else. -/
def Takes (p : Progress) (t : Token) : Prop :=
  (∃ conjunction, p.phase = .term conjunction) ∨
    p.phase = .between ∧ p.terms = [] ∧ t.OpensTerm

theorem IsReady.takes (h : p.IsReady) (ht : t.OpensTerm) : p.Takes t := by
  rcases h with hterm | ⟨hphase, hterms⟩
  · exact .inl hterm
  · exact .inr ⟨hphase, hterms, ht⟩

theorem Takes.step (h : p.Takes t) : p.step body? t = p.beginTerm body? t := by
  rcases h with ⟨conjunction, hphase⟩ | ⟨hphase, hterms, hclose, hor, hand⟩
  · simp [Progress.step, hphase]
  · simp [Progress.step, hphase, hterms, hclose, hor, hand]

/-! ## Terms -/

/-- A comparison is read as one term. -/
theorem run_condition {field symbol : Token} {o : Operator} (h : p.Takes field)
    (hfield : field.isOpening = false) (hsymbol : symbol.isSymbol o.symbol = true)
    (value : Token) :
    p.run body? [field, symbol, value] =
      .ok (p.addTerm (.condition ⟨field.text, o, value.text⟩)) := by
  have hoperator : symbol.operator? = some o := Token.operator?_eq_some_iff.2 hsymbol
  rw [run_cons, h.step, beginTerm, if_neg (by simp [hfield]), ok_bind, run_cons]
  simp only [Progress.step, hoperator, ok_bind, run_cons, run_nil]
  rfl

/-- The inside of parentheses is collected while more is opened than closed. -/
theorem run_body {d d' : Nat} (h : unclosedAfter d ts = some d') (alternatives terms : List Expr)
    (opening : Token) (inside : List Token) :
    run body? ⟨alternatives, terms, .body opening d inside⟩ ts =
      .ok ⟨alternatives, terms, .body opening d' (ts.reverse ++ inside)⟩ := by
  induction d, ts, h using unclosedAfter_induct generalizing inside with
  | nil => rfl
  | opening d t ts ho h ih =>
    rw [run_cons, List.reverse_cons, List.append_assoc, List.singleton_append]
    simp only [Progress.step, ho, if_true, ok_bind]
    exact ih _
  | closing d t ts hc h ih =>
    rw [run_cons, List.reverse_cons, List.append_assoc, List.singleton_append]
    have ho : t.isOpening = false := Token.isOpening_of_isClosing hc
    simp only [Progress.step, ho, hc, Bool.false_eq_true, if_false, if_true, ok_bind]
    exact ih _
  | other d t ts ho hc h ih =>
    rw [run_cons, List.reverse_cons, List.append_assoc, List.singleton_append]
    simp only [Progress.step, ho, hc, Bool.false_eq_true, if_false, ok_bind]
    exact ih _

/-- Parentheses with a balanced inside are read as one term, the inside by the reader given. -/
theorem run_group {opening closing : Token} {inside : List Token} (h : p.Takes opening)
    (hopening : opening.isOpening = true) (hinside : Balanced inside)
    (hclosing : closing.isClosing = true) (body : BodyReader) :
    p.run (some body) (opening :: (inside ++ [closing])) = body inside >>= fun e =>
      if e.isVacuous then .error (.emptyGroup opening.offset) else .ok (p.addTerm e) := by
  have hclose : closing.isOpening = false := Token.isOpening_of_isClosing hclosing
  rw [run_cons, h.step, beginTerm, if_pos hopening]
  simp only [Option.isSome_some, if_true, ok_bind]
  rw [run_append_of_ok (run_body (hinside.unclosedAfter 0) _ _ _ _), run_cons]
  simp only [Progress.step, hclose, hclosing, Bool.false_eq_true, if_false, if_true, closeGroup,
    List.append_nil, List.reverse_reverse]
  cases body inside with
  | error e => rfl
  | ok e =>
    simp only [ok_bind]
    split <;> rfl

/-- With no level left, an opening parenthesis is refused at once. -/
theorem run_group_of_no_level (h : p.Takes t) (ht : t.isOpening = true) (ts : List Token) :
    p.run none (t :: ts) = .error (.tooDeep t.offset) := by
  rw [run_cons, h.step, beginTerm, if_pos ht]
  rfl

/-! ## Keywords -/

theorem step_or (ht : t.isKeyword "or" = true) (hp : p.phase = .between) :
    p.step body? t = .ok p.endConjunction := by
  have hclose : t.isSymbol ")" = false :=
    Token.isSymbol_of_isKeyword (by decide) ht
  simp [Progress.step, hp, hclose, ht]

theorem step_and (ht : t.isKeyword "and" = true) (hp : p.phase = .between) :
    p.step body? t = .ok { p with phase := .term t } := by
  have hclose : t.isSymbol ")" = false :=
    Token.isSymbol_of_isKeyword (by decide) ht
  have hor : t.isKeyword "or" = false := by
    refine Bool.eq_false_iff.2 fun hor => ?_
    have hsame := (Token.isKeyword_iff.1 ht).2.symm.trans (Token.isKeyword_iff.1 hor).2
    exact absurd hsame (by decide)
  simp [Progress.step, hp, hclose, hor, ht]

theorem endConjunction_phase (p : Progress) : p.endConjunction.phase = p.phase := by
  rw [endConjunction]
  split <;> rfl

theorem endConjunction_of_ne_nil {alternatives terms : List Expr} {phase : Phase}
    (h : terms ≠ []) :
    endConjunction ⟨alternatives, terms, phase⟩ =
      ⟨.join .and terms.reverse :: alternatives, [], phase⟩ := by
  cases terms with
  | nil => exact absurd rfl h
  | cons e es => rfl

/-! ## All that a token can do -/

/-- What the token `t` makes of the progress `p`, where it is not refused. -/
inductive Moves (body? : Option BodyReader) (p : Progress) (t : Token) : Progress → Prop
  /-- An `or` ends the conjunction. -/
  | alternative (hphase : p.phase = .between) (ht : t.isKeyword "or" = true) :
    Moves body? p t p.endConjunction
  /-- An `and` announces a term. -/
  | conjunction (hphase : p.phase = .between) (ht : t.isKeyword "and" = true) :
    Moves body? p t { p with phase := .term t }
  /-- A parenthesis opens a group. -/
  | group (hp : p.Takes t) (ht : t.isOpening = true) (hbody : body?.isSome = true) :
    Moves body? p t { p with phase := .body t 0 [] }
  /-- Any other token is a field where a term begins. -/
  | field (hp : p.Takes t) (ht : t.isOpening = false) :
    Moves body? p t { p with phase := .operator t }
  /-- An operator comes after a field. -/
  | operator {field : Token} {o : Operator} (hphase : p.phase = .operator field)
    (ht : t.isSymbol o.symbol = true) : Moves body? p t { p with phase := .value field o t }
  /-- A value ends a comparison. -/
  | value {field symbol : Token} {o : Operator} (hphase : p.phase = .value field o symbol) :
    Moves body? p t (p.addTerm (.condition ⟨field.text, o, t.text⟩))
  /-- A token inside parentheses is collected. -/
  | inside {opening : Token} {d d' : Nat} {inside : List Token}
    (hphase : p.phase = .body opening d inside) (hd : unclosedAfter d [t] = some d') :
    Moves body? p t { p with phase := .body opening d' (t :: inside) }
  /-- The matching parenthesis ends a group. -/
  | close {opening : Token} {inside : List Token} {body : BodyReader} {e : Expr}
    (hphase : p.phase = .body opening 0 inside) (ht : t.isClosing = true)
    (hbody : body? = some body) (he : body inside.reverse = .ok e) (hv : e.isVacuous = false) :
    Moves body? p t (p.addTerm e)

theorem moves_of_beginTerm (hp : p.Takes t) (h : p.beginTerm body? t = .ok q) :
    Moves body? p t q := by
  unfold beginTerm at h
  split at h
  next ht =>
    split at h
    next hbody =>
      cases h
      exact .group hp ht hbody
    next => cases h
  next ht =>
    cases h
    exact .field hp (Bool.eq_false_iff.2 ht)

theorem closeGroup_eq_ok_iff {opening : Token} {inside : List Token} :
    p.closeGroup body? opening inside = .ok q ↔
      ∃ body e, body? = some body ∧ body inside.reverse = .ok e ∧ e.isVacuous = false ∧
        q = p.addTerm e := by
  constructor
  · intro h
    unfold closeGroup at h
    split at h
    next => cases h
    next body =>
      obtain ⟨e, he, hv⟩ := bind_eq_ok_iff.1 h
      split at hv
      next => cases hv
      next hvacuous =>
        cases hv
        exact ⟨body, e, rfl, he, Bool.eq_false_iff.2 hvacuous, rfl⟩
  · rintro ⟨body, e, rfl, he, hv, rfl⟩
    simp only [closeGroup, he, hv, ok_bind, Bool.false_eq_true, if_false]

/-- A token that is not refused does one of the things listed. -/
theorem moves_of_step (h : p.step body? t = .ok q) : Moves body? p t q := by
  unfold step at h
  split at h
  next hphase =>
    split at h
    · cases h
    next hclose =>
      split at h
      next hor =>
        cases h
        exact .alternative hphase hor
      next hor =>
        split at h
        next hand =>
          cases h
          exact .conjunction hphase hand
        next hand =>
          split at h
          next hterms =>
            -- only the first term of a conjunction needs no `and`
            have hopens : t.OpensTerm :=
              ⟨Bool.eq_false_iff.2 hclose, Bool.eq_false_iff.2 hor, Bool.eq_false_iff.2 hand⟩
            exact moves_of_beginTerm (.inr ⟨hphase, List.isEmpty_iff.1 hterms, hopens⟩) h
          next => cases h
  next conjunction hphase => exact moves_of_beginTerm (.inl ⟨conjunction, hphase⟩) h
  next field hphase =>
    split at h
    next o ho =>
      cases h
      exact .operator hphase (Token.operator?_eq_some_iff.1 ho)
    next => cases h
  next field o symbol hphase =>
    cases h
    exact .value hphase
  next opening d inside hphase =>
    split at h
    next ho =>
      cases h
      exact .inside hphase (unclosedAfter_opening d [] ho)
    next ho =>
      split at h
      next hc =>
        split at h
        next =>
          obtain ⟨body, e, hbody, he, hv, rfl⟩ := closeGroup_eq_ok_iff.1 h
          exact .close hphase hc hbody he hv
        next d =>
          cases h
          exact .inside hphase (unclosedAfter_closing_succ d [] hc)
      next hc =>
        cases h
        exact .inside hphase
          (unclosedAfter_other d [] (Bool.eq_false_iff.2 ho) (Bool.eq_false_iff.2 hc))

/-- What each move keeps true of the tokens so far and the progress, a run keeps true. -/
theorem invariant_run {P : List Token → Progress → Prop}
    (hstep : ∀ us p t q, P us p → Moves body? p t q → P (us ++ [t]) q) (us : List Token)
    (hp : P us p) (h : p.run body? ts = .ok q) : P (us ++ ts) q := by
  induction ts generalizing us p with
  | nil =>
    cases h
    rwa [List.append_nil]
  | cons t ts ih =>
    rw [run_cons] at h
    obtain ⟨r, hr, hrest⟩ := bind_eq_ok_iff.1 h
    have hmoved : P (us ++ [t]) r := hstep us p t r hp (moves_of_step hr)
    rw [List.append_cons]
    exact ih (us ++ [t]) hmoved hrest

/-! ## All that the end can give -/

/-- The tree that is read where the tokens end with the progress `p`. -/
inductive Ends (mode : ParseMode) (body? : Option BodyReader) (p : Progress) : Expr → Prop
  /-- Between two terms, or at the start, the sequence is complete. -/
  | between (hphase : p.phase = .between) : Ends mode body? p p.expr
  /-- The end closes parentheses that are left open, if that is allowed. -/
  | body {opening : Token} {d : Nat} {inside : List Token} {body : BodyReader} {e : Expr}
    (hmode : mode = .permissive) (hphase : p.phase = .body opening d inside)
    (hbody : body? = some body) (he : body inside.reverse = .ok e) (hv : e.isVacuous = false) :
    Ends mode body? p (p.addTerm e).expr

theorem ends_of_finish {mode : ParseMode} {e : Expr} (h : p.finish mode body? = .ok e) :
    Ends mode body? p e := by
  unfold finish at h
  split at h
  next hphase =>
    cases h
    exact .between hphase
  next => cases h
  next => cases h
  next => cases h
  next hphase =>
    cases mode with
    | strict => cases h
    | permissive =>
      obtain ⟨q, hclose, hq⟩ := bind_eq_ok_iff.1 h
      cases hq
      obtain ⟨body, e, hbody, he, hv, rfl⟩ := closeGroup_eq_ok_iff.1 hclose
      exact .body rfl hphase hbody he hv

/-- What each move keeps true is true of the progress that the tokens end with. -/
theorem exists_ends_of_readSequence {mode : ParseMode} {e : Expr}
    {P : List Token → Progress → Prop}
    (hstep : ∀ us p t q, P us p → Moves body? p t q → P (us ++ [t]) q) (hstart : P [] start)
    (h : readSequence mode body? ts = .ok e) : ∃ p, P ts p ∧ Ends mode body? p e := by
  rw [readSequence_eq_run] at h
  obtain ⟨p, hrun, hfinish⟩ := bind_eq_ok_iff.1 h
  exact ⟨p, invariant_run hstep [] hstart hrun, ends_of_finish hfinish⟩

end Progress

end RecordFilter
