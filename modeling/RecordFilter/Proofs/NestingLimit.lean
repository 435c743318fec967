import RecordFilter.Proofs.Relocation
import RecordFilter.Proofs.RoundTrip
import RecordFilter.Proofs.SuppliedParens

/-!
# What the nesting limit changes

Tokens from which a tree is derived, with however many levels of parentheses, are read as the tree
where fewer levels are left, unless a parenthesis nests deeper than that; then the first one that
does is refused (`Grammar.Derives.readNested_eq`). So the limit is the only thing that can go wrong
with such tokens.

No opening parenthesis may be a value here: to the reading it is no parenthesis, while the place
that nests too deep is found by ordinary bracket matching. Tokens that are read with nothing
left open lead from one progress to the next (`Progress.Leads`), and what they lead to is put
together from the terms up.
-/

namespace RecordFilter

/-! ## The first parenthesis that nests too deep -/

section Outcomes

variable {α β : Type} {t : Token} {ts us : List Token} (limit : Nat)

/-- Ordinary bracket matching says how many are open where the second piece begins. -/
theorem firstNested_append_leftOpen (n : Nat) (xs ys : List Token) :
    firstNested limit n (xs ++ ys) =
      (firstNested limit n xs).or (firstNested limit (leftOpen n xs) ys) := by
  induction xs generalizing n with
  | nil => rfl
  | cons t xs ih =>
    rw [List.cons_append, firstNested, firstNested, leftOpen]
    by_cases ho : t.isOpening = true
    · rw [if_pos ho, if_pos ho, if_pos ho, ih]
      split
      · rfl
      · rfl
    · rw [if_neg ho, if_neg ho, if_neg ho]
      split
      · exact ih (n - 1)
      · exact ih n

/-- Where nothing is open and nothing opens, nothing nests. -/
theorem firstNested_of_forall (h : ∀ t ∈ ts, t.isOpening = false) :
    firstNested limit 0 ts = none ∧ leftOpen 0 ts = 0 := by
  induction ts with
  | nil => exact ⟨rfl, rfl⟩
  | cons t ts ih =>
    obtain ⟨ht, hts⟩ := List.forall_mem_cons.1 h
    obtain ⟨hfirst, hopen⟩ := ih hts
    have hnot : ¬ t.isOpening = true := by simp [ht]
    rw [firstNested, leftOpen, if_neg hnot, if_neg hnot]
    split
    · exact ⟨hfirst, hopen⟩
    · exact ⟨hfirst, hopen⟩

theorem orTooDeep_of_forall (h : ∀ t ∈ ts, t.isOpening = false) (a : α) :
    orTooDeep limit ts a = .ok a := by
  rw [orTooDeep, (firstNested_of_forall limit h).1]

/-- What is too deep in a piece that leaves nothing open is reported, whatever the rest. -/
theorem orTooDeep_bind_append_of_leftOpen (hts : leftOpen 0 ts = 0) {a : α} {b : β}
    {f : α → Except ParseError β} (h : f a = orTooDeep limit us b) :
    orTooDeep limit ts a >>= f = orTooDeep limit (ts ++ us) b := by
  unfold orTooDeep at h ⊢
  rw [firstNested_append_leftOpen, hts]
  cases firstNested limit 0 ts with
  | none => exact h
  | some offset => rfl

end Outcomes

/-! ## From one progress to the next -/

namespace Progress

variable {mode : ParseMode} {limit : Nat} {p q r : Progress} {ts us : List Token}

/-- The tokens are read from `p` to `q`, unless one of their parentheses nests too deep, and they
leave none open. -/
structure Leads (mode : ParseMode) (limit : Nat) (p : Progress) (ts : List Token) (q : Progress) :
    Prop where
  run_eq : p.run (bodyReader? mode limit) ts = orTooDeep limit ts q
  leftOpen_eq : leftOpen 0 ts = 0

theorem Leads.of_run (hts : ∀ t ∈ ts, t.isOpening = false)
    (h : p.run (bodyReader? mode limit) ts = .ok q) : Leads mode limit p ts q := by
  constructor
  · rw [h, orTooDeep_of_forall limit hts]
  · exact (firstNested_of_forall limit hts).2

theorem Leads.append (hts : Leads mode limit p ts q) (hus : Leads mode limit q us r) :
    Leads mode limit p (ts ++ us) r := by
  constructor
  · rw [run_append, hts.run_eq]
    exact orTooDeep_bind_append_of_leftOpen limit hts.leftOpen_eq hus.run_eq
  · rw [leftOpen_append, hts.leftOpen_eq, hus.leftOpen_eq]

theorem Leads.readSequence_eq (h : Leads mode limit start ts q) {e : Expr}
    (hfinish : q.finish mode (bodyReader? mode limit) = .ok e) :
    readNested mode limit ts = orTooDeep limit ts e := by
  rw [readNested_eq, readSequence_eq_run, h.run_eq]
  exact orTooDeep_bind limit hfinish

end Progress

/-- The inside of parentheses is read as the tree where fewer levels are left, unless a parenthesis
nests too deep. -/
def ReadsToLimit (mode : ParseMode) : BodyRule :=
  fun ts e => NoOpeningAfterOperator ts → ∀ limit, readNested mode limit ts = orTooDeep limit ts e

namespace Grammar

open Progress

variable {mode : ParseMode} {limit : Nat} {ts : List Token} {e : Expr} {es : List Expr}

/-! ## What derivations lead to -/

/-- Parentheses are a term if they may stand here and what is inside them does not nest too deep. -/
theorem leads_group {opening closing : Token} {inside : List Token} {p : Progress}
    (hp : p.Takes opening) (hopening : opening.isOpening = true) (hinside : Balanced inside)
    (hclosing : closing.isClosing = true) (hv : e.isVacuous = false)
    (he : ∀ limit, readNested mode limit inside = orTooDeep limit inside e) :
    Leads mode limit p (opening :: (inside ++ [closing])) (p.addTerm e) := by
  constructor
  · cases limit with
    | zero =>
      rw [orTooDeep_zero hopening]
      exact run_group_of_no_level hp hopening _
    | succ limit =>
      rw [bodyReader?, run_group hp hopening hinside hclosing, he limit,
        orTooDeep_group limit hopening hclosing hinside]
      apply orTooDeep_bind
      rw [hv]
      rfl
  · exact leftOpen_of_unclosedAfter (balanced_iff.1 (hinside.group hopening hclosing))

theorem Term.leads (h : Term (ReadsToLimit mode) ts e) (hts : NoOpeningAfterOperator ts)
    {p : Progress} (hp : ∀ t us, ts = t :: us → p.Takes t) :
    Leads mode limit p ts (p.addTerm e) := by
  cases h with
  | @group opening closing inside _ hopening hinside hclosing he hv =>
    have hvalues : NoOpeningAfterOperator inside := by
      rw [← List.singleton_append] at hts
      exact hts.of_append_right.of_append_left
    exact leads_group (hp _ _ rfl) hopening hinside hclosing hv (he hvalues)
  | @condition field symbol o hfield hsymbol value =>
    have hvalue : value.isOpening = false := by
      have hrow : NoOpeningAfterOperator ([] ++ [field, symbol] ++ [value]) := hts
      exact hrow.isOpening_value hsymbol
    have hnone : ∀ t ∈ [field, symbol, value], t.isOpening = false := by
      simp [hfield, Token.isOpening_of_isOperator hsymbol, hvalue]
    exact .of_run hnone (run_condition (hp _ _ rfl) hfield hsymbol value)

/-- A conjunction announces the next term. -/
theorem leads_and {t : Token} (ht : t.isKeyword "and" = true) (alternatives terms : List Expr) :
    Leads mode limit ⟨alternatives, terms, .between⟩ [t] ⟨alternatives, terms, .term t⟩ := by
  have hopening : t.isOpening = false := Token.isSymbol_of_isKeyword (by decide) ht
  have hstep : step (bodyReader? mode limit) ⟨alternatives, terms, .between⟩ t =
      .ok ⟨alternatives, terms, .term t⟩ := step_and ht rfl
  refine .of_run (List.forall_mem_singleton.2 hopening) ?_
  rw [run_cons, hstep, ok_bind, run_nil]

theorem Conjunction.leads (h : Conjunction (ReadsToLimit mode) ts es)
    (hts : NoOpeningAfterOperator ts) (alternatives : List Expr) :
    Leads mode limit ⟨alternatives, [], .between⟩ ts ⟨alternatives, es.reverse, .between⟩ := by
  induction h with
  | term h ht =>
    refine h.leads hts fun t us heq => .inr ⟨rfl, rfl, ?_⟩
    cases heq
    exact ht
  | @announced t ts e ht h =>
    rw [← List.singleton_append] at hts ⊢
    have hterm : Leads mode limit ⟨alternatives, [], .term t⟩ ts ⟨alternatives, [e], .between⟩ :=
      h.leads hts.of_append_right fun _ _ _ => .inl ⟨t, rfl⟩
    exact (leads_and ht alternatives []).append hterm
  | @and t ts us es e _ ht hus ih =>
    rw [← List.singleton_append] at hts ⊢
    have hterm : Leads mode limit ⟨alternatives, es.reverse, .term t⟩ us
        ⟨alternatives, e :: es.reverse, .between⟩ :=
      hus.leads hts.of_append_right.of_append_right fun _ _ _ => .inl ⟨t, rfl⟩
    rw [List.reverse_append]
    exact (ih hts.of_append_left).append ((leads_and ht alternatives es.reverse).append hterm)

theorem AllOr.isOpening (h : AllOr ts) : ∀ t ∈ ts, t.isOpening = false := by
  intro t ht
  exact Token.isSymbol_of_isKeyword (by decide) (h t ht)

/-- All conjunctions but the last are finished. -/
theorem Alternatives.leads {as : List Expr} (h : Alternatives (ReadsToLimit mode) ts as)
    (limit : Nat) (hts : NoOpeningAfterOperator ts) :
    ∃ alternatives terms, terms ≠ [] ∧
      Leads mode limit start ts ⟨alternatives, terms, .between⟩ ∧
      .join .and terms.reverse :: alternatives = as.reverse := by
  induction h with
  | @conjunction ts es h =>
    refine ⟨[], es.reverse, by simpa using h.ne_nil, h.leads hts [], ?_⟩
    rw [List.reverse_reverse]
    rfl
  | @or ts ors us as es hprefix hne hors hus ih =>
    obtain ⟨alternatives, terms, hterms, hlead, has⟩ := ih hts.of_append_left.of_append_left
    have hbetween : Leads mode limit ⟨alternatives, terms, .between⟩ ors
        ⟨as.reverse, [], .between⟩ := by
      rw [← has]
      exact .of_run hors.isOpening (run_or hne hors hterms)
    refine ⟨as.reverse, es.reverse, by simpa using hus.ne_nil,
      (hlead.append hbetween).append (hus.leads hts.of_append_right as.reverse), ?_⟩
    rw [List.reverse_reverse, List.reverse_append]
    rfl

theorem Sequence.readNested_eq (h : Sequence (ReadsToLimit mode) ts e)
    (hts : NoOpeningAfterOperator ts) :
    readNested mode limit ts = orTooDeep limit ts e := by
  cases h with
  | blank hors =>
    have hlead : Leads mode limit start ts start :=
      .of_run hors.isOpening (run_or_of_nil hors [])
    exact hlead.readSequence_eq rfl
  | @alternatives before ts after as hbefore halternatives hafter =>
    obtain ⟨alternatives, terms, hterms, hlead, has⟩ :=
      halternatives.leads limit hts.of_append_left.of_append_right
    have hfront : Leads mode limit start before start :=
      .of_run hbefore.isOpening (run_or_of_nil hbefore [])
    have has' : (Expr.join .and terms.reverse :: alternatives).reverse = as := by
      rw [has, List.reverse_reverse]
    by_cases hne : after = []
    · refine Leads.readSequence_eq (q := ⟨alternatives, terms, .between⟩) ?_ ?_
      · rw [hne, List.append_nil]
        exact hfront.append hlead
      · rw [← has']
        simp [finish, expr, endConjunction_of_ne_nil hterms]
    · have hback : Leads mode limit ⟨alternatives, terms, .between⟩ after
          ⟨.join .and terms.reverse :: alternatives, [], .between⟩ :=
        .of_run hafter.isOpening (run_or hne hafter hterms)
      refine ((hfront.append hlead).append hback).readSequence_eq ?_
      rw [← has']
      simp [finish, expr, endConjunction]

/-- Tokens that a tree is derived from are read as the tree where no more than `limit` parentheses
may be open at once, unless one of them nests deeper. -/
theorem Derives.readNested_eq {levels : Nat} (h : Derives levels ts e)
    (hts : NoOpeningAfterOperator ts) (mode : ParseMode) (limit : Nat) :
    readNested mode limit ts = orTooDeep limit ts e := by
  induction levels generalizing ts e limit with
  | zero =>
    have hsequence : Sequence (ReadsToLimit mode) (ts.map id) e :=
      Sequence.map keepsText_id h fun _ _ _ he => he.elim
    rw [List.map_id] at hsequence
    exact hsequence.readNested_eq hts
  | succ levels ih =>
    have hsequence : Sequence (ReadsToLimit mode) (ts.map id) e := by
      refine Sequence.map keepsText_id h ?_
      intro inside e _ he hinside limit
      rw [List.map_id] at hinside ⊢
      exact ih he hinside limit
    rw [List.map_id] at hsequence
    exact hsequence.readNested_eq hts

end Grammar

end RecordFilter
