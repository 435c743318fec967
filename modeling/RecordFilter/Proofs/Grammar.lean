import RecordFilter.Proofs.Reading

/-!
# The grammar of filters

The rules say which rows of tokens stand for which tree, with no word about how they are read.
Each rule gives the tree along with the tokens:

```text
sequence     := "or"* ( alternatives "or"* )?
alternatives := conjunction ( "or"+ conjunction )*
conjunction  := "and"? term ( "and" term )*
term         := "(" body ")" | field operator value
```

Two things are more than context-free. A term that no `and` announces begins with no bare `)`,
`and` or `or`, while after an `and` any token is taken as it comes. And the body of a group ends
where the count of bare parentheses says so, wherever they stand, even as fields and values; what
it stands for is asked for only then.

The rules take what derives a body as a parameter, so that `Derives` can be defined by recursion on
how deep parentheses may still nest. Lists of conjunctions and of terms grow at their end, as they
do when they are read.
-/

namespace RecordFilter

/-- What tokens inside parentheses derive. -/
abbrev BodyRule := List Token → Expr → Prop

namespace Grammar

/-- A term. -/
inductive Term (body : BodyRule) : List Token → Expr → Prop
  /-- Parentheses around what derives a tree that restricts something. -/
  | group {opening closing : Token} {inside : List Token} {e : Expr}
    (hopening : opening.isOpening = true) (hinside : Balanced inside)
    (hclosing : closing.isClosing = true) (he : body inside e) (hv : e.isVacuous = false) :
    Term body (opening :: (inside ++ [closing])) e
  /-- A comparison. The field is no bare opening parenthesis; the value is any token. -/
  | condition {field symbol : Token} {o : Operator} (hfield : field.isOpening = false)
    (hsymbol : symbol.isSymbol o.symbol = true) (value : Token) :
    Term body [field, symbol, value] (.condition ⟨field.text, o, value.text⟩)

/-- Terms with an `and` before each but the first, where it may be left out. -/
inductive Conjunction (body : BodyRule) : List Token → List Expr → Prop
  /-- A first term with no `and`. -/
  | term {t : Token} {ts : List Token} {e : Expr} (h : Term body (t :: ts) e)
    (ht : t.OpensTerm) : Conjunction body (t :: ts) [e]
  /-- A first term after an `and`. -/
  | announced {t : Token} {ts : List Token} {e : Expr} (ht : t.isKeyword "and" = true)
    (h : Term body ts e) : Conjunction body (t :: ts) [e]
  /-- One term more. -/
  | and {t : Token} {ts us : List Token} {es : List Expr} {e : Expr}
    (hts : Conjunction body ts es) (ht : t.isKeyword "and" = true) (hus : Term body us e) :
    Conjunction body (ts ++ t :: us) (es ++ [e])

/-- Nothing but bare `or`s. -/
def AllOr (ts : List Token) : Prop :=
  ∀ t ∈ ts, t.isKeyword "or" = true

theorem AllOr.append {ts us : List Token} (hts : AllOr ts) (hus : AllOr us) : AllOr (ts ++ us) := by
  intro t ht
  rcases List.mem_append.1 ht with h | h
  · exact hts t h
  · exact hus t h

theorem allOr_singleton {t : Token} (ht : t.isKeyword "or" = true) : AllOr [t] := by
  intro u hu
  rwa [List.mem_singleton.1 hu]

/-- Conjunctions with one `or` or more between any two. -/
inductive Alternatives (body : BodyRule) : List Token → List Expr → Prop
  | conjunction {ts : List Token} {es : List Expr} (h : Conjunction body ts es) :
    Alternatives body ts [.join .and es]
  | or {ts ors us : List Token} {as es : List Expr} (hts : Alternatives body ts as)
    (hne : ors ≠ []) (hors : AllOr ors) (hus : Conjunction body us es) :
    Alternatives body (ts ++ ors ++ us) (as ++ [.join .and es])

/-- A sequence. -/
inductive Sequence (body : BodyRule) : List Token → Expr → Prop
  /-- With no conjunction, nothing is restricted. -/
  | blank {ts : List Token} (hts : AllOr ts) : Sequence body ts .vacuous
  | alternatives {before ts after : List Token} {as : List Expr} (hbefore : AllOr before)
    (hts : Alternatives body ts as) (hafter : AllOr after) :
    Sequence body (before ++ ts ++ after) (.join .or as)

/-- A sequence may begin and end without an `or`. -/
theorem Alternatives.sequence {body : BodyRule} {ts : List Token} {as : List Expr}
    (h : Alternatives body ts as) : Sequence body ts (.join .or as) := by
  have hnone : AllOr [] := by
    intro t ht
    cases ht
  have hsequence := Sequence.alternatives hnone h hnone
  rwa [List.nil_append, List.append_nil] at hsequence

/-- What the tokens derive where parentheses may nest `levels` deep. -/
def Derives : (levels : Nat) → List Token → Expr → Prop
  | 0 => Sequence fun _ _ => False
  | levels + 1 => Sequence (Derives levels)

end Grammar

/-- What a reader of bodies, if there is one, reads from them. -/
def Reads (body? : Option BodyReader) : BodyRule :=
  fun ts e => ∃ body, body? = some body ∧ body ts = .ok e

open Grammar Progress

variable {body? : Option BodyReader}

/-! ## What is derived is read -/

section Completeness

theorem Grammar.Term.run {ts : List Token} {e : Expr} (h : Term (Reads body?) ts e)
    {p : Progress} (hp : ∀ t us, ts = t :: us → p.Takes t) :
    p.run body? ts = .ok (p.addTerm e) := by
  cases h with
  | group hopening hinside hclosing he hv =>
    obtain ⟨body, rfl, he⟩ := he
    rw [run_group (hp _ _ rfl) hopening hinside hclosing, he, ok_bind, hv]
    rfl
  | condition hfield hsymbol value => exact run_condition (hp _ _ rfl) hfield hsymbol value

theorem Grammar.Conjunction.ne_nil {body : BodyRule} {ts : List Token} {es : List Expr}
    (h : Conjunction body ts es) : es ≠ [] := by
  cases h <;> simp

theorem Grammar.Conjunction.run {ts : List Token} {es : List Expr}
    (h : Conjunction (Reads body?) ts es) (alternatives : List Expr) :
    Progress.run body? ⟨alternatives, [], .between⟩ ts =
      .ok ⟨alternatives, es.reverse, .between⟩ := by
  induction h with
  | term h ht =>
    refine h.run fun t us heq => .inr ⟨rfl, rfl, ?_⟩
    cases heq
    exact ht
  | announced ht h =>
    rw [run_cons, step_and ht rfl, ok_bind]
    exact h.run fun _ _ _ => .inl ⟨_, rfl⟩
  | and hts ht hus ih =>
    rw [run_append_of_ok ih, run_cons, step_and ht rfl, ok_bind,
      hus.run fun _ _ _ => .inl ⟨_, rfl⟩, List.reverse_append]
    rfl

theorem Progress.run_or_of_nil {ts : List Token} (h : AllOr ts) (alternatives : List Expr) :
    Progress.run body? ⟨alternatives, [], .between⟩ ts = .ok ⟨alternatives, [], .between⟩ := by
  induction ts with
  | nil => rfl
  | cons t ts ih =>
    obtain ⟨ht, hts⟩ := List.forall_mem_cons.1 h
    rw [run_cons, step_or ht rfl, ok_bind]
    exact ih hts

theorem Progress.run_or {ts : List Token} (hne : ts ≠ []) (h : AllOr ts)
    {alternatives terms : List Expr} (hterms : terms ≠ []) :
    Progress.run body? ⟨alternatives, terms, .between⟩ ts =
      .ok ⟨.join .and terms.reverse :: alternatives, [], .between⟩ := by
  cases ts with
  | nil => exact absurd rfl hne
  | cons t ts =>
    obtain ⟨ht, hts⟩ := List.forall_mem_cons.1 h
    rw [run_cons, step_or ht rfl, ok_bind, endConjunction_of_ne_nil hterms]
    exact run_or_of_nil hts _

/-- After alternatives, all but the last conjunction are finished. -/
theorem Grammar.Alternatives.run {ts : List Token} {as : List Expr}
    (h : Alternatives (Reads body?) ts as) :
    ∃ alternatives terms, terms ≠ [] ∧
      Progress.run body? ⟨[], [], .between⟩ ts = .ok ⟨alternatives, terms, .between⟩ ∧
      .join .and terms.reverse :: alternatives = as.reverse := by
  induction h with
  | @conjunction ts es h =>
    refine ⟨[], es.reverse, by simpa using h.ne_nil, h.run [], ?_⟩
    simp
  | @or ts ors us as es hts hne hors hus ih =>
    obtain ⟨alternatives, terms, hterms, hrun, has⟩ := ih
    refine ⟨as.reverse, es.reverse, by simpa using hus.ne_nil, ?_, by simp⟩
    rw [List.append_assoc, run_append_of_ok hrun, run_append_of_ok (run_or hne hors hterms),
      has, hus.run]

theorem Grammar.Sequence.read {ts : List Token} {e : Expr} (h : Sequence (Reads body?) ts e)
    (mode : ParseMode) : readSequence mode body? ts = .ok e := by
  rw [readSequence_eq_run]
  cases h with
  | blank hts =>
    rw [start, run_or_of_nil hts, ok_bind]
    rfl
  | @alternatives before ts after as hbefore hts hafter =>
    obtain ⟨alternatives, terms, hterms, hrun, has⟩ := hts.run
    have has' : (Expr.join .and terms.reverse :: alternatives).reverse = as := by
      rw [has, List.reverse_reverse]
    rw [start, List.append_assoc, run_append_of_ok (run_or_of_nil hbefore []),
      run_append_of_ok hrun]
    by_cases hne : after = []
    · rw [hne, run_nil, ok_bind, ← has']
      simp [finish, expr, endConjunction_of_ne_nil hterms]
    · rw [run_or hne hafter hterms, ok_bind, ← has']
      simp [finish, expr, endConjunction]

end Completeness

/-! ## What is read is derived -/

namespace Progress

variable {body : BodyRule} {ts us : List Token} {t : Token} {alternatives terms : List Expr}
  {e : Expr}

/-- The tokens are finished conjunctions, and another may begin. -/
def IsBetween (body : BodyRule) (ts : List Token) (alternatives : List Expr) : Prop :=
  (AllOr ts ∧ alternatives = []) ∨
    ∃ before as after, ts = before ++ as ++ after ∧ AllOr before ∧
      Alternatives body as alternatives.reverse ∧ after ≠ [] ∧ AllOr after

/-- The tokens are finished conjunctions and then the beginning of one, with the terms given. -/
def IsBegun (body : BodyRule) (ts : List Token) (alternatives terms : List Expr) : Prop :=
  ∃ front row, ts = front ++ row ∧ IsBetween body front alternatives ∧
    Conjunction body row terms.reverse

/-- After `ts`, a term that begins with `t` is one term more. -/
def Awaits (body : BodyRule) (ts : List Token) (t : Token) (alternatives terms : List Expr) :
    Prop :=
  ∀ us e, Term body (t :: us) e → IsBegun body (ts ++ t :: us) alternatives (e :: terms)

/-- The progress is one that the tokens lead to by the rules. -/
def Follows (body : BodyRule) (ts : List Token) (p : Progress) : Prop :=
  match p.phase with
  | .between =>
    (p.terms = [] ∧ IsBetween body ts p.alternatives) ∨ IsBegun body ts p.alternatives p.terms
  | .term _ => ∀ t, Awaits body ts t p.alternatives p.terms
  | .operator field =>
    field.isOpening = false ∧
      ∃ us, ts = us ++ [field] ∧ Awaits body us field p.alternatives p.terms
  | .value field o symbol =>
    field.isOpening = false ∧ symbol.isSymbol o.symbol = true ∧
      ∃ us, ts = us ++ [field, symbol] ∧ Awaits body us field p.alternatives p.terms
  | .body opening d inside =>
    opening.isOpening = true ∧ unclosedAfter 0 inside.reverse = some d ∧
      ∃ us, ts = us ++ opening :: inside.reverse ∧
        Awaits body us opening p.alternatives p.terms

theorem follows_start (body : BodyRule) : Follows body [] start :=
  .inl ⟨rfl, .inl ⟨fun _ ht => absurd ht List.not_mem_nil, rfl⟩⟩

/-! ### Conjunctions -/

/-- The conjunction begun is one alternative more. -/
theorem IsBegun.joined (h : IsBegun body ts alternatives terms) :
    ∃ before as, ts = before ++ as ∧ AllOr before ∧
      Alternatives body as (.join .and terms.reverse :: alternatives).reverse := by
  obtain ⟨front, row, rfl, ⟨hors, rfl⟩ | ⟨before, as, after, rfl, hbefore, has, hne, hafter⟩,
    hrow⟩ := h
  · exact ⟨front, row, rfl, hors, .conjunction hrow⟩
  · refine ⟨before, as ++ after ++ row, by simp, hbefore, ?_⟩
    rw [List.reverse_cons]
    exact .or has hne hafter hrow

theorem IsBetween.or (h : IsBetween body ts alternatives) (ht : t.isKeyword "or" = true) :
    IsBetween body (ts ++ [t]) alternatives := by
  rcases h with ⟨hors, hnil⟩ | ⟨before, as, after, rfl, hbefore, has, hne, hafter⟩
  · exact .inl ⟨hors.append (allOr_singleton ht), hnil⟩
  · exact .inr ⟨before, as, after ++ [t], by simp, hbefore, has, by simp,
      hafter.append (allOr_singleton ht)⟩

theorem IsBegun.or (h : IsBegun body ts alternatives terms) (ht : t.isKeyword "or" = true) :
    IsBetween body (ts ++ [t]) (.join .and terms.reverse :: alternatives) := by
  obtain ⟨before, as, rfl, hbefore, has⟩ := h.joined
  exact .inr ⟨before, as, [t], rfl, hbefore, has, by simp, allOr_singleton ht⟩

theorem IsBegun.terms_ne_nil (h : IsBegun body ts alternatives terms) : terms ≠ [] := by
  obtain ⟨front, row, -, -, hrow⟩ := h
  simpa using hrow.ne_nil

/-! ### Terms -/

theorem IsBetween.awaits (h : IsBetween body ts alternatives) (ht : t.OpensTerm) :
    Awaits body ts t alternatives [] := by
  intro us e hterm
  exact ⟨ts, t :: us, rfl, h, .term hterm ht⟩

theorem IsBetween.awaits_and (h : IsBetween body ts alternatives)
    (ht : t.isKeyword "and" = true) (u : Token) :
    Awaits body (ts ++ [t]) u alternatives [] := by
  intro us e hterm
  exact ⟨ts, t :: u :: us, by simp, h, .announced ht hterm⟩

theorem IsBegun.awaits_and (h : IsBegun body ts alternatives terms)
    (ht : t.isKeyword "and" = true) (u : Token) :
    Awaits body (ts ++ [t]) u alternatives terms := by
  intro us e hterm
  obtain ⟨front, row, rfl, hfront, hrow⟩ := h
  refine ⟨front, row ++ t :: u :: us, by simp, hfront, ?_⟩
  rw [List.reverse_cons]
  exact .and hrow ht hterm

theorem Follows.awaits {p : Progress} (h : Follows body ts p) (hp : p.Takes t) :
    Awaits body ts t p.alternatives p.terms := by
  rcases hp with ⟨conjunction, hphase⟩ | ⟨hphase, hterms, hopens⟩
  · simp only [Follows, hphase] at h
    exact h t
  · simp only [Follows, hphase] at h
    rcases h with ⟨-, hbetween⟩ | hbegun
    · rw [hterms]
      exact hbetween.awaits hopens
    · exact absurd hterms hbegun.terms_ne_nil

/-! ### The invariant -/

/-- Whatever a token does, the rules allow. -/
theorem Follows.moves {p q : Progress} (h : Follows (Reads body?) ts p)
    (hmoves : Moves body? p t q) : Follows (Reads body?) (ts ++ [t]) q := by
  cases hmoves with
  | alternative hphase ht =>
    simp only [Follows, hphase] at h
    by_cases hterms : p.terms = []
    · -- after another `or`, or before everything else, an `or` ends no conjunction
      have hsame : p.endConjunction = p := by rw [endConjunction, hterms]
      rcases h with ⟨-, hbetween⟩ | hbegun
      · simp only [Follows, hsame, hphase]
        exact .inl ⟨hterms, hbetween.or ht⟩
      · exact absurd hterms hbegun.terms_ne_nil
    · rcases h with ⟨hnil, -⟩ | hbegun
      · exact absurd hnil hterms
      · rw [endConjunction_of_ne_nil hterms]
        simp only [Follows, hphase]
        exact .inl ⟨trivial, hbegun.or ht⟩
  | conjunction hphase ht =>
    simp only [Follows, hphase] at h
    intro u
    rcases h with ⟨hnil, hbetween⟩ | hbegun
    · rw [hnil]
      exact hbetween.awaits_and ht u
    · exact hbegun.awaits_and ht u
  | group hp ht hbody => exact ⟨ht, rfl, ts, by simp, h.awaits hp⟩
  | field hp ht => exact ⟨ht, ts, rfl, h.awaits hp⟩
  | @operator field o hphase ht =>
    simp only [Follows, hphase] at h
    obtain ⟨hfield, us, rfl, hus⟩ := h
    exact ⟨hfield, ht, us, by simp, hus⟩
  | @value field symbol o hphase =>
    simp only [Follows, hphase] at h
    obtain ⟨hfield, hsymbol, us, rfl, hus⟩ := h
    refine .inr ?_
    rw [List.append_assoc]
    exact hus [symbol, t] _ (.condition hfield hsymbol t)
  | @inside opening d d' inside hphase hd =>
    -- the group is asked for only at its closing parenthesis, here the count goes on
    simp only [Follows, hphase] at h
    obtain ⟨hopening, hdepth, us, rfl, hus⟩ := h
    refine ⟨hopening, ?_, us, by simp, hus⟩
    rw [List.reverse_cons, unclosedAfter_append, hdepth]
    exact hd
  | @close opening inside body e hphase ht hbody he hv =>
    simp only [Follows, hphase] at h
    obtain ⟨hopening, hdepth, us, rfl, hus⟩ := h
    refine .inr ?_
    rw [List.append_assoc]
    exact hus (inside.reverse ++ [t]) e
      (.group hopening (balanced_iff.2 hdepth) ht ⟨body, hbody, he⟩ hv)

theorem Follows.ends {p : Progress} (h : Follows body ts p) (hends : Ends .strict body? p e) :
    Sequence body ts e := by
  cases hends with
  | body hmode => cases hmode
  | between hphase =>
    simp only [Follows, hphase] at h
    rcases h with ⟨hterms, ⟨hors, hnil⟩ | ⟨before, as, after, rfl, hbefore, has, -, hafter⟩⟩ |
      hbegun
    · simp only [expr, endConjunction, hterms, hnil]
      exact .blank hors
    · simp only [expr, endConjunction, hterms]
      exact .alternatives hbefore has hafter
    · obtain ⟨before, as, rfl, hbefore, has⟩ := hbegun.joined
      rw [expr, endConjunction_of_ne_nil hbegun.terms_ne_nil, ← List.append_nil (before ++ as)]
      exact .alternatives hbefore has fun _ ht => absurd ht List.not_mem_nil

end Progress

theorem sequence_of_readSequence {ts : List Token} {e : Expr}
    (h : readSequence .strict body? ts = .ok e) : Sequence (Reads body?) ts e := by
  obtain ⟨p, hp, hends⟩ := exists_ends_of_readSequence (P := Follows (Reads body?))
    (fun _ _ _ _ hp hmoves => hp.moves hmoves) (follows_start _) h
  exact hp.ends hends

/-! ## The parser and the grammar -/

theorem readSequence_eq_ok_iff {ts : List Token} {e : Expr} :
    readSequence .strict body? ts = .ok e ↔ Sequence (Reads body?) ts e := by
  constructor
  · exact sequence_of_readSequence
  · intro h
    exact h.read .strict

theorem reads_none : Reads none = fun _ _ => False := by
  ext ts e
  constructor
  · rintro ⟨_, ⟨⟩, -⟩
  · exact False.elim

theorem reads_some {body : BodyReader} {rule : BodyRule}
    (h : ∀ ts e, body ts = .ok e ↔ rule ts e) : Reads (some body) = rule := by
  ext ts e
  rw [← h]
  constructor
  · rintro ⟨_, ⟨⟩, hread⟩
    exact hread
  · intro hread
    exact ⟨body, rfl, hread⟩

theorem readNested_eq_ok_iff (levels : Nat) (ts : List Token) (e : Expr) :
    readNested .strict levels ts = .ok e ↔ Derives levels ts e := by
  induction levels generalizing ts e with
  | zero => rw [readNested_zero, readSequence_eq_ok_iff, reads_none, Derives]
  | succ levels ih => rw [readNested_succ, readSequence_eq_ok_iff, reads_some ih, Derives]

/-- The tokens that are read without permission to leave parentheses open are those that the
grammar derives a tree from, and the tree is that tree. -/
theorem parseTokens_eq_ok_iff (ts : List Token) (e : Expr) :
    parseTokens .strict ts = .ok e ↔ Derives maxDepth ts e :=
  readNested_eq_ok_iff maxDepth ts e

end RecordFilter
