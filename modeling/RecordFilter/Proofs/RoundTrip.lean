import RecordFilter.Proofs.CanonicalRows

/-!
# Reading a canonical form back

The tokens of a canonical form are read back as the tree, its groups of one replaced by their
children, unless parentheses nest deeper than they may: then the reading fails at the first one
that does. `orTooDeep` is that outcome. Since a canonical form is balanced, the outcome on a row of
terms is the outcome on the first and then the outcome on the rest (`orTooDeep_bind_append`), and
the outcome inside parentheses is the outcome with one level less (`orTooDeep_group`).
-/

namespace RecordFilter

/-! ## The outcome of a reading -/

/-- What is read, unless a parenthesis of `ts` has `levels` unclosed ones before it. -/
def orTooDeep {α : Type} (levels : Nat) (ts : List Token) (a : α) : Except ParseError α :=
  match firstNested levels 0 ts with
  | some offset => .error (.tooDeep offset)
  | none => .ok a

section Outcomes

variable {α β : Type} {ts us : List Token} {t : Token} (levels : Nat)

@[simp] theorem orTooDeep_nil (a : α) : orTooDeep levels [] a = .ok a := rfl

theorem orTooDeep_bind {a : α} {b : β} {f : α → Except ParseError β} (h : f a = .ok b) :
    orTooDeep levels ts a >>= f = orTooDeep levels ts b := by
  unfold orTooDeep
  cases firstNested levels 0 ts with
  | none => exact h
  | some offset => rfl

/-- What is too deep in the first piece is reported, whatever the rest. -/
theorem orTooDeep_bind_append (hts : Balanced ts) {a : α} {b : β} {f : α → Except ParseError β}
    (h : f a = orTooDeep levels us b) :
    orTooDeep levels ts a >>= f = orTooDeep levels (ts ++ us) b := by
  unfold orTooDeep at h ⊢
  rw [hts.firstNested_append]
  cases firstNested levels 0 ts with
  | none => exact h
  | some offset => rfl

theorem orTooDeep_cons (ho : t.isOpening = false) (hc : t.isClosing = false) (a : α) :
    orTooDeep levels (t :: ts) a = orTooDeep levels ts a := by
  unfold orTooDeep
  rw [firstNested_other _ _ _ ho hc]

theorem orTooDeep_group {opening closing : Token} (ho : opening.isOpening = true)
    (hc : closing.isClosing = true) (h : Balanced ts) (a : α) :
    orTooDeep (levels + 1) (opening :: (ts ++ [closing])) a = orTooDeep levels ts a := by
  unfold orTooDeep
  rw [h.firstNested_group ho hc]

theorem orTooDeep_zero {opening : Token} (ho : opening.isOpening = true) (a : α) :
    orTooDeep 0 (opening :: ts) a = .error (.tooDeep opening.offset) := by
  unfold orTooDeep
  rw [firstNested_opening _ _ _ ho, if_pos rfl]

end Outcomes

/-! ## Terms and rows of terms -/

namespace Progress

variable {mode : ParseMode} {levels : Nat} {ts : List Token}

/-- The tree is read back as one term. -/
def ReadBack (mode : ParseMode) (e : Expr) : Prop :=
  ∀ (levels : Nat) (ts : List Token) (p : Progress), ReadAs e.pieces ts → p.IsReady →
    p.run (bodyReader? mode levels) ts = orTooDeep levels ts (p.addTerm e.collapse)

theorem readBack_condition (mode : ParseMode) (c : Condition) :
    ReadBack mode (.condition c) := by
  intro levels ts p hts hp
  obtain ⟨o, o', o'', rfl⟩ := readAs_condition_iff.1 hts
  obtain ⟨hfield, hopens⟩ := token_word_plain c.field o
  obtain ⟨hvalue, hvalueOpens⟩ := token_word_plain c.value o''
  have hsymbol : (Token.bare c.operator.symbol o').isSymbol c.operator.symbol = true :=
    Token.isSymbol_iff.2 ⟨rfl, rfl⟩
  rw [run_condition (hp.takes hopens) hfield hsymbol, token_word_text, token_word_text,
    orTooDeep_cons _ hfield hopens.1,
    orTooDeep_cons _ (isOpening_operator _ _) (isClosing_operator _ _),
    orTooDeep_cons _ hvalue hvalueOpens.1, orTooDeep_nil]
  rfl

theorem run_row_and {es : List Expr} (hne : es ≠ []) (hes : ∀ e ∈ es, ReadBack mode e)
    (hts : ReadAs ([Piece.keyword .and].intercalate (es.map Expr.pieces)) ts) {p : Progress}
    (hp : p.IsReady) :
    p.run (bodyReader? mode levels) ts =
      orTooDeep levels ts
        ⟨p.alternatives, (es.map Expr.collapse).reverse ++ p.terms, .between⟩ := by
  induction es generalizing ts p with
  | nil => exact absurd rfl hne
  | cons a es ih =>
    cases es with
    | nil => exact hes a (by simp) levels ts p (by simpa using hts) hp
    | cons b es =>
      -- after the first term, the keyword announces the rest of the row
      obtain ⟨us, o, vs, rfl, hus, hvs⟩ := readAs_row_iff.1 hts
      have hrow := ih (by simp) (fun e he => hes e (by simp [he])) hvs
        (p := ⟨p.alternatives, a.collapse :: p.terms, .term (.bare Connective.and.keyword o)⟩)
        (.inl ⟨_, rfl⟩)
      have hstep : (p.addTerm a.collapse).step (bodyReader? mode levels)
          (.bare Connective.and.keyword o) = .ok ⟨p.alternatives, a.collapse :: p.terms,
            .term (.bare Connective.and.keyword o)⟩ := step_and (isKeyword_and o) rfl
      rw [run_append, hes a (by simp) levels us p hus hp]
      refine orTooDeep_bind_append levels (balanced_of_readAs hus) ?_
      rw [orTooDeep_cons _ (isOpening_keyword .and o) (isClosing_keyword .and o), run_cons, hstep,
        ok_bind]
      exact hrow.trans (by simp)

/-- After an `or` row, each child is an alternative of its own. -/
theorem finish_row_or {es : List Expr} (hne : es ≠ []) (hes : ∀ e ∈ es, ReadBack mode e)
    (hts : ReadAs ([Piece.keyword .or].intercalate (es.map Expr.pieces)) ts)
    (alternatives : List Expr) :
    run (bodyReader? mode levels) ⟨alternatives, [], .between⟩ ts >>=
        finish mode (bodyReader? mode levels) =
      orTooDeep levels ts (.join .or (alternatives.reverse ++ es.map Expr.collapse)) := by
  induction es generalizing ts alternatives with
  | nil => exact absurd rfl hne
  | cons a es ih =>
    have hready : IsReady ⟨alternatives, [], .between⟩ := .inr ⟨rfl, rfl⟩
    cases es with
    | nil =>
      rw [hes a (by simp) levels ts _ (by simpa using hts) hready]
      refine orTooDeep_bind levels ?_
      simp [finish, addTerm, expr, endConjunction]
    | cons b es =>
      obtain ⟨us, o, vs, rfl, hus, hvs⟩ := readAs_row_iff.1 hts
      have hrow := ih (by simp) (fun e he => hes e (by simp [he])) hvs
        (a.collapse :: alternatives)
      have hstep : (addTerm ⟨alternatives, [], .between⟩ a.collapse).step
          (bodyReader? mode levels) (.bare Connective.or.keyword o) =
            .ok ⟨a.collapse :: alternatives, [], .between⟩ := step_or (isKeyword_or o) rfl
      rw [run_append, hes a (by simp) levels us _ hus hready, bind_assoc]
      refine orTooDeep_bind_append levels (balanced_of_readAs hus) ?_
      rw [orTooDeep_cons _ (isOpening_keyword .or o) (isClosing_keyword .or o), run_cons, hstep,
        ok_bind]
      exact hrow.trans (by simp)

/-- The inside of a group is read back as the group. -/
theorem readNested_row {k : Connective} {es : List Expr} (hne : es ≠ [])
    (hes : ∀ e ∈ es, ReadBack mode e)
    (hts : ReadAs ([Piece.keyword k].intercalate (es.map Expr.pieces)) ts) :
    readNested mode levels ts = orTooDeep levels ts (.join k (es.map Expr.collapse)) := by
  rw [readNested_eq, readSequence_eq_run]
  cases k with
  | and =>
    have hterms : (es.map Expr.collapse).reverse ≠ [] := by simpa using hne
    rw [run_row_and hne hes hts (.inr ⟨rfl, rfl⟩)]
    refine orTooDeep_bind levels ?_
    simp [finish, expr, start, endConjunction_of_ne_nil hterms]
  | or => exact finish_row_or hne hes hts []

theorem readBack_group {k : Connective} {a b : Expr} {es : List Expr}
    (hes : ∀ e ∈ a :: b :: es, ReadBack mode e) : ReadBack mode (.group k (a :: b :: es)) := by
  intro levels ts p hts hp
  obtain ⟨o, inside, o', rfl, hinside⟩ := readAs_group_iff.1 hts
  have hbal : Balanced inside := balanced_row (fun e _ us hus => balanced_of_readAs hus) hinside
  have htakes : p.Takes (.bare "(" o) := hp.takes (Token.opensTerm_of_isOpening rfl)
  cases levels with
  | zero =>
    -- the group's own parenthesis is the first that nests too deep
    rw [orTooDeep_zero rfl]
    exact run_group_of_no_level htakes rfl _
  | succ levels =>
    rw [bodyReader?, run_group htakes rfl hbal rfl, orTooDeep_group _ rfl rfl hbal,
      readNested_row (by simp) hes hinside]
    refine orTooDeep_bind levels ?_
    simp

/-- Each tree without empty groups is read back from the tokens of its canonical form. -/
theorem readBack_of_isFilled (mode : ParseMode) {e : Expr} (h : e.IsFilled) :
    ReadBack mode e := by
  induction e using Expr.inductBySize with
  | condition c => exact readBack_condition mode c
  | empty k => exact absurd rfl (Expr.isFilled_group.1 h).1
  | single k e ih =>
    intro levels ts p hts hp
    rw [Expr.pieces_group_singleton] at hts
    rw [Expr.collapse_group_singleton]
    exact ih ((Expr.isFilled_group.1 h).2 e (by simp)) levels ts p hts hp
  | several k a b es ih =>
    exact readBack_group fun e he => ih e he ((Expr.isFilled_group.1 h).2 e he)

end Progress

/-! ## The canonical form as a whole -/

theorem readNested_of_readAs (mode : ParseMode) {e : Expr} (h : e.IsFilled) (levels : Nat)
    {ts : List Token} (hts : ReadAs e.pieces ts) :
    readNested mode levels ts = orTooDeep levels ts e.collapse := by
  rw [readNested_eq, Progress.readSequence_eq_run,
    Progress.readBack_of_isFilled mode h levels ts _ hts (.inr ⟨rfl, rfl⟩)]
  exact orTooDeep_bind levels rfl

theorem firstNested_row_eq_none_iff {k : Connective} {es : List Expr} {ts : List Token}
    {limit : Nat} (hes : ∀ e ∈ es, ∀ us, ReadAs e.pieces us →
      (firstNested limit 0 us = none ↔ e.collapse.nesting ≤ limit))
    (hts : ReadAs ([Piece.keyword k].intercalate (es.map Expr.pieces)) ts) :
    firstNested limit 0 ts = none ↔ ∀ e ∈ es, e.collapse.nesting ≤ limit := by
  induction es generalizing ts with
  | nil =>
    obtain rfl : ts = [] := List.forall₂_nil_left_iff.1 hts
    simp
  | cons a es ih =>
    cases es with
    | nil => simpa using hes a (by simp) ts (by simpa using hts)
    | cons b es =>
      obtain ⟨us, o, vs, rfl, hus, hvs⟩ := readAs_row_iff.1 hts
      rw [(balanced_of_readAs hus).firstNested_append, Option.or_eq_none_iff,
        firstNested_other _ _ _ (isOpening_keyword k o) (isClosing_keyword k o),
        hes a (by simp) us hus, ih (fun e he => hes e (by simp [he])) hvs,
        List.forall_mem_cons (a := a)]

/-- The parentheses of a canonical form nest as deep as its groups of two or more. -/
theorem firstNested_eq_none_iff {e : Expr} (h : e.IsFilled) {ts : List Token}
    (hts : ReadAs e.pieces ts) (limit : Nat) :
    firstNested limit 0 ts = none ↔ e.collapse.nesting ≤ limit := by
  induction e using Expr.inductBySize generalizing ts limit with
  | condition c =>
    obtain ⟨o, o', o'', rfl⟩ := readAs_condition_iff.1 hts
    obtain ⟨hfo, hfc, -⟩ := token_word_plain c.field o
    obtain ⟨hvo, hvc, -⟩ := token_word_plain c.value o''
    rw [firstNested_other _ _ _ hfo hfc,
      firstNested_other _ _ _ (isOpening_operator _ _) (isClosing_operator _ _),
      firstNested_other _ _ _ hvo hvc]
    simp
  | empty k => exact absurd rfl (Expr.isFilled_group.1 h).1
  | single k e ih =>
    rw [Expr.pieces_group_singleton] at hts
    rw [Expr.collapse_group_singleton]
    exact ih ((Expr.isFilled_group.1 h).2 e (by simp)) hts limit
  | several k a b es ih =>
    obtain ⟨-, hes⟩ := Expr.isFilled_group.1 h
    obtain ⟨o, inside, o', rfl, hinside⟩ := readAs_group_iff.1 hts
    have hbal : Balanced inside := balanced_row (fun e _ us hus => balanced_of_readAs hus) hinside
    rw [Expr.collapse_group_cons_cons]
    cases limit with
    | zero =>
      have hpos := Expr.nesting_group_pos k ((a :: b :: es).map Expr.collapse)
      rw [firstNested_opening _ _ _ rfl, if_pos rfl]
      simp only [reduceCtorEq, false_iff]
      omega
    | succ limit =>
      rw [hbal.firstNested_group rfl rfl, Expr.nesting_group_le_succ_iff, List.forall_mem_map]
      exact firstNested_row_eq_none_iff (fun e he us hus => ih e he (hes e he) hus limit) hinside

end RecordFilter
