import Mathlib.Data.List.Forall2
import RecordFilter.Proofs.Reading

/-!
# What the reading of tokens looks at

Two rows of tokens that are alike, token by token, in their text and in whether they stand in quotes
are read alike. Where the tokens stand and which quotes they have comes up only in errors, and an
error is of a kind and about a token (`ParseError.Kind.about`): the two readings fail for the same
kind, about tokens at the same place.

Both readings are run side by side. They are compared by a relation between the tokens of the one
and those of the other, which may be any that holds of like tokens only (`RelatesLike`). All that a
progress keeps is related if what was read is (`Progress.Related`), a step taken on related tokens
keeps it so (`Progress.related_step`), and thereby a run does. The relation that is used in the end
is that of like tokens at one place.
-/

namespace RecordFilter

/-- The tokens have one text, and both stand in quotes or neither does. -/
structure Token.Alike (t u : Token) : Prop where
  text_eq : t.text = u.text
  isQuoted_eq : t.isQuoted = u.isQuoted

/-- What can be wrong with a token. -/
inductive ParseError.Kind where
  | unexpectedCloseParen
  | unclosedParen
  | emptyGroup
  | missingAnd
  | missingTerm
  | tooDeep
  | missingOperation
  | invalidOperation
  | missingValue

/-- The error of the kind about the token. -/
def ParseError.Kind.about (t : Token) : Kind → ParseError
  | .unexpectedCloseParen => .unexpectedCloseParen t.offset
  | .unclosedParen => .unclosedParen t.offset
  | .emptyGroup => .emptyGroup t.offset
  | .missingAnd => .missingAnd t.display t.offset
  | .missingTerm => .missingTerm t.offset
  | .tooDeep => .tooDeep t.offset
  | .missingOperation => .missingOperation t.offset
  | .invalidOperation => .invalidOperation t.display t.offset
  | .missingValue => .missingValue t.offset

namespace Token.Alike

variable {t u : Token} (h : t.Alike u)
include h

theorem isSymbol_eq (s : String) : t.isSymbol s = u.isSymbol s := by
  rw [isSymbol, isSymbol, h.text_eq, h.isQuoted_eq]

theorem isKeyword_eq (k : String) : t.isKeyword k = u.isKeyword k := by
  rw [isKeyword, isKeyword, h.text_eq, h.isQuoted_eq]

theorem operator?_eq : t.operator? = u.operator? := by
  rw [operator?, operator?, h.text_eq, h.isQuoted_eq]

end Token.Alike

/-- The relation holds of like tokens only. -/
def RelatesLike (R : Token → Token → Prop) : Prop :=
  ∀ t u, R t u → t.Alike u

/-- Both have results, which are related by `S`, or both fail for errors of one kind about tokens
that are related by `R`. -/
inductive SameOutcome {α : Type} (R : Token → Token → Prop) (S : α → α → Prop) :
    Except ParseError α → Except ParseError α → Prop
  | ok {a b : α} (h : S a b) : SameOutcome R S (.ok a) (.ok b)
  | error {t u : Token} (kind : ParseError.Kind) (h : R t u) :
    SameOutcome R S (.error (kind.about t)) (.error (kind.about u))

/-- The reader reads the same tree from related tokens. -/
def BodyReader.RespectsRelation (R : Token → Token → Prop) (body : BodyReader) : Prop :=
  ∀ ts us, List.Forall₂ R ts us → SameOutcome R Eq (body ts) (body us)

/-- What comes next is the same, and is about related tokens. -/
inductive Phase.Related (R : Token → Token → Prop) : Phase → Phase → Prop
  | between : Related R .between .between
  | term {t u : Token} (h : R t u) : Related R (.term t) (.term u)
  | operator {t u : Token} (h : R t u) : Related R (.operator t) (.operator u)
  | value {t t' u u' : Token} (o : Operator) (hfield : R t u) (hsymbol : R t' u') :
    Related R (.value t o t') (.value u o u')
  | body {t u : Token} {ts us : List Token} (d : Nat) (hopening : R t u)
    (hinside : List.Forall₂ R ts us) : Related R (.body t d ts) (.body u d us)

/-- What has been read is the same, and what is being read is related. -/
structure Progress.Related (R : Token → Token → Prop) (p q : Progress) : Prop where
  alternatives_eq : p.alternatives = q.alternatives
  terms_eq : p.terms = q.terms
  phase : p.phase.Related R q.phase

theorem SameOutcome.bind {α β : Type} {R : Token → Token → Prop} {S : α → α → Prop}
    {T : β → β → Prop} {x y : Except ParseError α} {f g : α → Except ParseError β}
    (h : SameOutcome R S x y) (hfg : ∀ a b, S a b → SameOutcome R T (f a) (g b)) :
    SameOutcome R T (x >>= f) (y >>= g) := by
  cases h with
  | ok hab => exact hfg _ _ hab
  | error kind htu => exact .error kind htu

namespace Progress

variable {R : Token → Token → Prop} {mode : ParseMode} {body? : Option BodyReader}
  {p q : Progress} {t u : Token} {ts us : List Token}

/-! ## What keeps progresses related -/

theorem Related.start : start.Related R start :=
  ⟨rfl, rfl, .between⟩

theorem Related.withPhase (h : p.Related R q) {phase phase' : Phase}
    (hphase : phase.Related R phase') :
    Related R { p with phase := phase } { q with phase := phase' } :=
  ⟨h.alternatives_eq, h.terms_eq, hphase⟩

theorem Related.addTerm (h : p.Related R q) (e : Expr) :
    (p.addTerm e).Related R (q.addTerm e) :=
  ⟨h.alternatives_eq, congrArg (e :: ·) h.terms_eq, .between⟩

theorem Related.endConjunction (h : p.Related R q) :
    p.endConjunction.Related R q.endConjunction := by
  obtain ⟨alternatives, terms, phase⟩ := p
  obtain ⟨alternatives', terms', phase'⟩ := q
  obtain ⟨rfl, rfl, hphase⟩ := h
  cases terms with
  | nil => exact ⟨rfl, rfl, hphase⟩
  | cons e es => exact ⟨rfl, rfl, hphase⟩

theorem Related.expr_eq (h : p.Related R q) : p.expr = q.expr := by
  rw [expr, expr, h.endConjunction.alternatives_eq]

/-! ## The steps on related tokens -/

variable (hR : RelatesLike R) (hbody : ∀ body, body? = some body → body.RespectsRelation R)

include hR in
theorem related_beginTerm (hp : p.Related R q) (ht : R t u) :
    SameOutcome R (Related R) (p.beginTerm body? t) (q.beginTerm body? u) := by
  rw [beginTerm, beginTerm, ← (hR t u ht).isSymbol_eq]
  by_cases hopening : t.isSymbol "(" = true
  · rw [if_pos hopening, if_pos hopening]
    by_cases hsome : body?.isSome = true
    · rw [if_pos hsome, if_pos hsome]
      exact .ok (hp.withPhase (.body 0 ht .nil))
    · rw [if_neg hsome, if_neg hsome]
      exact .error .tooDeep ht
  · rw [if_neg hopening, if_neg hopening]
    exact .ok (hp.withPhase (.operator ht))

include hbody in
theorem related_closeGroup (hp : p.Related R q) (ht : R t u) (hinside : List.Forall₂ R ts us) :
    SameOutcome R (Related R) (p.closeGroup body? t ts) (q.closeGroup body? u us) := by
  cases hsome : body? with
  | none => exact .error .tooDeep ht
  | some body =>
    have hread := hbody body hsome _ _ (List.rel_reverse hinside)
    refine hread.bind ?_
    rintro e _ rfl
    by_cases hv : e.isVacuous = true
    · rw [if_pos hv, if_pos hv]
      exact .error .emptyGroup ht
    · rw [if_neg hv, if_neg hv]
      exact .ok (hp.addTerm e)

include hR in
/-- Between two terms. -/
theorem related_step_between (hp : p.Related R q) (hpp : p.phase = .between)
    (hqp : q.phase = .between) (ht : R t u) :
    SameOutcome R (Related R) (p.step body? t) (q.step body? u) := by
  have hlike := hR t u ht
  have hterms : q.terms.isEmpty = p.terms.isEmpty := by rw [hp.terms_eq]
  simp only [step, hpp, hqp]
  rw [← hlike.isSymbol_eq, ← hlike.isKeyword_eq, ← hlike.isKeyword_eq, hterms]
  by_cases hclosing : t.isSymbol ")" = true
  · rw [if_pos hclosing, if_pos hclosing]
    exact .error .unexpectedCloseParen ht
  · rw [if_neg hclosing, if_neg hclosing]
    by_cases hor : t.isKeyword "or" = true
    · rw [if_pos hor, if_pos hor]
      exact .ok hp.endConjunction
    · rw [if_neg hor, if_neg hor]
      by_cases hand : t.isKeyword "and" = true
      · rw [if_pos hand, if_pos hand]
        exact .ok (hp.withPhase (.term ht))
      · rw [if_neg hand, if_neg hand]
        by_cases hempty : p.terms.isEmpty = true
        · rw [if_pos hempty, if_pos hempty]
          exact related_beginTerm hR hp ht
        · rw [if_neg hempty, if_neg hempty]
          exact .error .missingAnd ht

include hR hbody in
/-- Inside parentheses. -/
theorem related_step_body {opening opening' : Token} {d : Nat} (hp : p.Related R q)
    (hpp : p.phase = .body opening d ts) (hqp : q.phase = .body opening' d us)
    (hopening : R opening opening') (hinside : List.Forall₂ R ts us) (ht : R t u) :
    SameOutcome R (Related R) (p.step body? t) (q.step body? u) := by
  have hlike := hR t u ht
  have hmore (d' : Nat) : SameOutcome R (Related R)
      (.ok { p with phase := .body opening d' (t :: ts) })
      (.ok { q with phase := .body opening' d' (u :: us) }) :=
    .ok (hp.withPhase (.body d' hopening (.cons ht hinside)))
  simp only [step, hpp, hqp]
  rw [← hlike.isSymbol_eq, ← hlike.isSymbol_eq]
  by_cases hopens : t.isSymbol "(" = true
  · rw [if_pos hopens, if_pos hopens]
    exact hmore (d + 1)
  · rw [if_neg hopens, if_neg hopens]
    by_cases hcloses : t.isSymbol ")" = true
    · rw [if_pos hcloses, if_pos hcloses]
      cases d with
      | zero => exact related_closeGroup hbody hp hopening hinside
      | succ d => exact hmore d
    · rw [if_neg hcloses, if_neg hcloses]
      exact hmore d

include hR hbody in
/-- Related tokens do the same to what is related. -/
theorem related_step (hp : p.Related R q) (ht : R t u) :
    SameOutcome R (Related R) (p.step body? t) (q.step body? u) := by
  -- the two phases are of one form; they get names, as `cases` needs variables there
  have hphase := hp.phase
  generalize hpp : p.phase = phase at hphase
  generalize hqp : q.phase = phase' at hphase
  cases hphase with
  | between => exact related_step_between hR hp hpp hqp ht
  | term _ =>
    simp only [step, hpp, hqp]
    exact related_beginTerm hR hp ht
  | operator hfield =>
    simp only [step, hpp, hqp]
    rw [← (hR t u ht).operator?_eq]
    cases t.operator? with
    | some o => exact .ok (hp.withPhase (.value o hfield ht))
    | none => exact .error .invalidOperation ht
  | value o hfield _ =>
    simp only [step, hpp, hqp]
    rw [← (hR _ _ hfield).text_eq, ← (hR t u ht).text_eq]
    exact .ok (hp.addTerm _)
  | body d hopening hinside => exact related_step_body hR hbody hp hpp hqp hopening hinside ht

/-! ## The readings of related tokens -/

include hR hbody in
theorem related_run (hp : p.Related R q) (h : List.Forall₂ R ts us) :
    SameOutcome R (Related R) (p.run body? ts) (q.run body? us) := by
  induction h generalizing p q with
  | nil => exact .ok hp
  | cons ht _ ih =>
    rw [run_cons, run_cons]
    exact (related_step hR hbody hp ht).bind fun _ _ hnext => ih hnext

include hbody in
theorem related_finish (hp : p.Related R q) :
    SameOutcome R Eq (p.finish mode body?) (q.finish mode body?) := by
  have hphase := hp.phase
  generalize hpp : p.phase = phase at hphase
  generalize hqp : q.phase = phase' at hphase
  simp only [finish, hpp, hqp]
  cases hphase with
  | between => exact .ok hp.expr_eq
  | term ht => exact .error .missingTerm ht
  | operator ht => exact .error .missingOperation ht
  | value _ _ hsymbol => exact .error .missingValue hsymbol
  | body _ hopening hinside =>
    cases mode with
    | strict => exact .error .unclosedParen hopening
    | permissive =>
      exact (related_closeGroup hbody hp hopening hinside).bind fun _ _ hclosed =>
        .ok hclosed.expr_eq

include hR hbody in
theorem respectsRelation_readSequence (mode : ParseMode) :
    BodyReader.RespectsRelation R (readSequence mode body?) := by
  intro ts us h
  rw [readSequence_eq_run, readSequence_eq_run]
  exact (related_run hR hbody .start h).bind fun _ _ hend => related_finish hbody hend

end Progress

theorem respectsRelation_readNested {R : Token → Token → Prop} (hR : RelatesLike R)
    (mode : ParseMode) (levels : Nat) : BodyReader.RespectsRelation R (readNested mode levels) :=
  readNested_induct (fun _ hbody => Progress.respectsRelation_readSequence hR hbody mode) levels

/-! ## Like tokens at one place -/

/-- The tokens are alike and stand at the same place, the one in `ts` and the other in `us`. -/
def AlikeIn (ts us : List Token) (t u : Token) : Prop :=
  t.Alike u ∧ ∃ i : Nat, ts[i]? = some t ∧ us[i]? = some u

theorem forall₂_alikeIn {ts us : List Token} (h : List.Forall₂ Token.Alike ts us) :
    List.Forall₂ (AlikeIn ts us) ts us := by
  rw [List.forall₂_iff_get] at h ⊢
  obtain ⟨hlength, halike⟩ := h
  refine ⟨hlength, ?_⟩
  intro i ht hu
  exact ⟨halike i ht hu, i, List.getElem?_eq_getElem ht, List.getElem?_eq_getElem hu⟩

/-- Like rows of tokens have one outcome. -/
theorem sameOutcome_parseTokens {ts us : List Token} (h : List.Forall₂ Token.Alike ts us)
    (mode : ParseMode) :
    SameOutcome (AlikeIn ts us) Eq (parseTokens mode ts) (parseTokens mode us) := by
  -- with `Token.Alike` alone the errors would be about like tokens, at whatever places
  have hlike : RelatesLike (AlikeIn ts us) := fun t u htu => htu.1
  exact respectsRelation_readNested hlike mode maxDepth ts us (forall₂_alikeIn h)

/-- Like rows of tokens are the same filter, or fail for an error of one kind, each about its own
token at one place. So texts with like tokens, however they are spaced and quoted, are the same
filter if they are one. -/
theorem parseTokens_alike {ts us : List Token} (h : List.Forall₂ Token.Alike ts us)
    (mode : ParseMode) :
    ((∃ e, parseTokens mode ts = .ok e ∧ parseTokens mode us = .ok e) ∨
      ∃ (kind : ParseError.Kind) (i : Nat) (t u : Token), ts[i]? = some t ∧ us[i]? = some u ∧
        parseTokens mode ts = .error (kind.about t) ∧
        parseTokens mode us = .error (kind.about u)) ∧
    ∀ x y, tokenize x = .ok ts → tokenize y = .ok us →
      ∀ e, parse mode x = .ok e ↔ parse mode y = .ok e := by
  have houtcome := sameOutcome_parseTokens h mode
  generalize hts : parseTokens mode ts = outcome at houtcome
  generalize hus : parseTokens mode us = outcome' at houtcome
  constructor
  · cases houtcome with
    | ok he => exact .inl ⟨_, rfl, congrArg Except.ok he.symm⟩
    | error kind hlike =>
      obtain ⟨-, i, ht, hu⟩ := hlike
      exact .inr ⟨kind, i, _, _, ht, hu, rfl, rfl⟩
  · intro x y hx hy e
    rw [parse, parse, hx, hy, mapError_ok, mapError_ok, ok_bind, ok_bind, hts, hus,
      mapError_eq_ok_iff, mapError_eq_ok_iff]
    cases houtcome with
    | ok he => rw [he]
    | error kind _ => simp

/-- Other spaces and other quotes make no other filter, and an operator in quotes is refused in
either kind. -/
theorem parseTokens_alike_quotes :
    parse .permissive "(\ta\n=  \"b c\"" = .ok (.condition ⟨"a", .equals, "b c"⟩) ∧
    ∃ (kind : ParseError.Kind) (i : Nat) (t u : Token),
      [Token.bare "a" 0, .quoted "=" '\'' 2, .bare "b" 6][i]? = some t ∧
      [Token.bare "a" 1, .quoted "=" '"' 4, .bare "b" 7][i]? = some u ∧
      parseTokens .strict [.bare "a" 0, .quoted "=" '\'' 2, .bare "b" 6] =
        .error (kind.about t) ∧
      parseTokens .strict [.bare "a" 1, .quoted "=" '"' 4, .bare "b" 7] =
        .error (kind.about u) := by
  have hread : parse .permissive "( a = 'b c'" = .ok (.condition ⟨"a", .equals, "b c"⟩) := by
    decide +kernel
  have htexts : List.Forall₂ Token.Alike
      [.bare "(" 0, .bare "a" 2, .bare "=" 4, .quoted "b c" '\'' 6]
      [.bare "(" 0, .bare "a" 2, .bare "=" 4, .quoted "b c" '"' 7] :=
    .cons ⟨rfl, rfl⟩ (.cons ⟨rfl, rfl⟩ (.cons ⟨rfl, rfl⟩ (.cons ⟨rfl, rfl⟩ .nil)))
  have hrefused : parseTokens .strict [.bare "a" 0, .quoted "=" '\'' 2, .bare "b" 6] =
      .error (.invalidOperation "'='" 2) := by
    decide +kernel
  have hrows : List.Forall₂ Token.Alike [.bare "a" 0, .quoted "=" '\'' 2, .bare "b" 6]
      [.bare "a" 1, .quoted "=" '"' 4, .bare "b" 7] :=
    .cons ⟨rfl, rfl⟩ (.cons ⟨rfl, rfl⟩ (.cons ⟨rfl, rfl⟩ .nil))
  constructor
  · exact ((parseTokens_alike htexts .permissive).2 _ _ rfl rfl _).1 hread
  · apply (parseTokens_alike hrows .strict).1.resolve_left
    rintro ⟨e, he, -⟩
    rw [hrefused] at he
    cases he

end RecordFilter
