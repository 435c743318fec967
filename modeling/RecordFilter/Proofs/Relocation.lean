import RecordFilter.Proofs.Grammar

/-!
# The same tokens in another place

What the grammar derives from tokens it derives from them in any other place: at other offsets
(`Grammar.Derives.map`), and where fewer parentheses may nest, if the parentheses of the tokens
themselves nest no deeper (`Grammar.Derives.of_nestsAtMost`). Both are one induction over the rules
(`Grammar.Sequence.map`), which asks of the rule for bodies only what it says of the pieces that
stand inside parentheses.
-/

namespace RecordFilter

/-- The map changes at most where tokens stand. -/
def KeepsText (f : Token → Token) : Prop :=
  ∀ t, (f t).text = t.text ∧ (f t).quote = t.quote

theorem keepsText_id : KeepsText id := by
  intro t
  exact ⟨rfl, rfl⟩

/-- Nowhere more than `limit` of the bare parentheses are open at once. -/
def NestsAtMost (limit : Nat) (ts : List Token) : Prop :=
  ∀ us, us <+: ts → openings us ≤ closings us + limit

/-- `inside` is balanced, and parentheses stand around it somewhere in `ts`. -/
def Encloses (ts inside : List Token) : Prop :=
  Balanced inside ∧ ∃ opening closing, opening.isOpening = true ∧
    opening :: (inside ++ [closing]) <:+: ts

theorem nestsAtMost_of_openings_le {limit : Nat} {ts : List Token} (h : openings ts ≤ limit) :
    NestsAtMost limit ts := by
  intro us hus
  have hle : openings us ≤ openings ts := hus.sublist.countP_le
  omega

/-! ## What a token is, wherever it stands -/

namespace KeepsText

variable {f : Token → Token} (hf : KeepsText f) (t : Token)
include hf

theorem isSymbol_map (s : String) : (f t).isSymbol s = t.isSymbol s := by
  obtain ⟨htext, hquote⟩ := hf t
  rw [Token.isSymbol, Token.isSymbol, Token.isQuoted, Token.isQuoted, htext, hquote]

theorem isKeyword_map (k : String) : (f t).isKeyword k = t.isKeyword k := by
  obtain ⟨htext, hquote⟩ := hf t
  rw [Token.isKeyword, Token.isKeyword, Token.isQuoted, Token.isQuoted, htext, hquote]

theorem opensTerm_map (h : t.OpensTerm) : (f t).OpensTerm := by
  obtain ⟨hclosing, hor, hand⟩ := h
  refine ⟨?_, ?_, ?_⟩
  · rwa [Token.isClosing, hf.isSymbol_map]
  · rwa [hf.isKeyword_map]
  · rwa [hf.isKeyword_map]

theorem unclosedAfter_map (n : Nat) (ts : List Token) :
    unclosedAfter n (ts.map f) = unclosedAfter n ts := by
  induction ts generalizing n with
  | nil => rfl
  | cons t ts ih =>
    have ho : (f t).isOpening = t.isOpening := hf.isSymbol_map t "("
    have hc : (f t).isClosing = t.isClosing := hf.isSymbol_map t ")"
    rw [List.map_cons]
    rcases t.paren_cases with ⟨hto, htc⟩ | ⟨hto, htc⟩ | ⟨hto, htc⟩
    · rw [unclosedAfter_opening _ _ (ho.trans hto), unclosedAfter_opening _ _ hto, ih]
    · cases n with
      | zero =>
        rw [unclosedAfter_closing_zero _ (hc.trans htc), unclosedAfter_closing_zero _ htc]
      | succ n =>
        rw [unclosedAfter_closing_succ _ _ (hc.trans htc), unclosedAfter_closing_succ _ _ htc, ih]
    · rw [unclosedAfter_other _ _ (ho.trans hto) (hc.trans htc),
        unclosedAfter_other _ _ hto htc, ih]

theorem balanced_map {ts : List Token} (h : Balanced ts) : Balanced (ts.map f) := by
  rw [balanced_iff, hf.unclosedAfter_map]
  exact balanced_iff.1 h

end KeepsText

/-! ## Parentheses around a piece -/

theorem openings_append (ts us : List Token) :
    openings (ts ++ us) = openings ts + openings us :=
  List.countP_append

theorem closings_append (ts us : List Token) :
    closings (ts ++ us) = closings ts + closings us :=
  List.countP_append

namespace Encloses

variable {ts us inside : List Token} {limit : Nat}

theorem of_infix (h : Encloses ts inside) (hpart : ts <:+: us) : Encloses us inside := by
  obtain ⟨hinside, opening, closing, hopening, hts⟩ := h
  exact ⟨hinside, opening, closing, hopening, hts.trans hpart⟩

/-- The parenthesis around the piece is open all through the piece. -/
theorem openings_lt (h : Encloses ts inside) (hts : Balanced ts) (hlimit : NestsAtMost limit ts)
    (hus : us <+: inside) : openings us < closings us + limit := by
  obtain ⟨-, opening, closing, hopening, before, after, rfl⟩ := h
  obtain ⟨rest, rfl⟩ := hus
  have hopen : closings before ≤ openings before := by
    refine hts.1 before ?_
    rw [List.append_assoc]
    exact List.prefix_append _ _
  have hnest : openings (before ++ opening :: us) ≤ closings (before ++ opening :: us) + limit :=
    hlimit _ ⟨rest ++ [closing] ++ after, by simp⟩
  rw [openings_append, closings_append, openings_cons, closings_cons, hopening,
    Token.isClosing_of_isOpening hopening] at hnest
  simp only [Bool.false_eq_true, if_true, if_false] at hnest
  omega

/-- Inside parentheses one level less is taken up. -/
theorem nestsAtMost (h : Encloses ts inside) (hts : Balanced ts)
    (hlimit : NestsAtMost (limit + 1) ts) : NestsAtMost limit inside := by
  intro us hus
  have hlt : openings us < closings us + (limit + 1) := h.openings_lt hts hlimit hus
  omega

/-- Tokens in which no parenthesis may be open have no parentheses around anything. -/
theorem not_of_nestsAtMost_zero (hts : Balanced ts) (hlimit : NestsAtMost 0 ts) :
    ¬ Encloses ts inside := by
  intro h
  have hlt : openings [] < closings [] + 0 := h.openings_lt hts hlimit List.nil_prefix
  exact absurd hlt (by decide)

end Encloses

/-! ## Derivations elsewhere -/

namespace Grammar

variable {body body' : BodyRule} {f : Token → Token} (hf : KeepsText f)
include hf

theorem Term.map {ts : List Token} {e : Expr} (h : Term body ts e)
    (hbody : ∀ inside e, Encloses ts inside → body inside e → body' (inside.map f) e) :
    Term body' (ts.map f) e := by
  cases h with
  | @group opening closing inside _ hopening hinside hclosing he hv =>
    have hencloses : Encloses (opening :: (inside ++ [closing])) inside :=
      ⟨hinside, opening, closing, hopening, List.infix_rfl⟩
    rw [List.map_cons, List.map_append]
    refine .group ?_ (hf.balanced_map hinside) ?_ (hbody inside e hencloses he) hv
    · rwa [Token.isOpening, hf.isSymbol_map]
    · rwa [Token.isClosing, hf.isSymbol_map]
  | @condition field symbol o hfield hsymbol value =>
    have hsame : Expr.condition ⟨field.text, o, value.text⟩ =
        .condition ⟨(f field).text, o, (f value).text⟩ := by
      rw [(hf field).1, (hf value).1]
    rw [hsame]
    refine .condition ?_ ?_ (f value)
    · rwa [Token.isOpening, hf.isSymbol_map]
    · rwa [hf.isSymbol_map]

theorem Conjunction.map {ts : List Token} {es : List Expr} (h : Conjunction body ts es)
    (hbody : ∀ inside e, Encloses ts inside → body inside e → body' (inside.map f) e) :
    Conjunction body' (ts.map f) es := by
  induction h with
  | term h ht => exact .term (h.map hf hbody) (hf.opensTerm_map _ ht)
  | @announced t ts e ht h =>
    have hpart : ts <:+: t :: ts := (List.suffix_cons t ts).isInfix
    refine .announced ?_ (h.map hf fun inside e hinside => hbody inside e (hinside.of_infix hpart))
    rwa [hf.isKeyword_map]
  | @and t ts us es e hts ht hus ih =>
    have hleft : ts <:+: ts ++ t :: us := (List.prefix_append ts (t :: us)).isInfix
    have hright : us <:+: ts ++ t :: us := by
      rw [List.append_cons]
      exact (List.suffix_append (ts ++ [t]) us).isInfix
    rw [List.map_append, List.map_cons]
    refine .and (ih fun inside e hinside => hbody inside e (hinside.of_infix hleft)) ?_
      (hus.map hf fun inside e hinside => hbody inside e (hinside.of_infix hright))
    rwa [hf.isKeyword_map]

theorem AllOr.map {ts : List Token} (h : AllOr ts) : AllOr (ts.map f) := by
  intro u hu
  obtain ⟨t, ht, rfl⟩ := List.mem_map.1 hu
  rw [hf.isKeyword_map]
  exact h t ht

theorem Alternatives.map {ts : List Token} {as : List Expr} (h : Alternatives body ts as)
    (hbody : ∀ inside e, Encloses ts inside → body inside e → body' (inside.map f) e) :
    Alternatives body' (ts.map f) as := by
  induction h with
  | conjunction h => exact .conjunction (h.map hf hbody)
  | @or ts ors us as es hts hne hors hus ih =>
    have hleft : ts <:+: ts ++ ors ++ us := by
      rw [List.append_assoc]
      exact (List.prefix_append ts (ors ++ us)).isInfix
    have hright : us <:+: ts ++ ors ++ us := (List.suffix_append (ts ++ ors) us).isInfix
    rw [List.map_append, List.map_append]
    refine .or (ih fun inside e hinside => hbody inside e (hinside.of_infix hleft)) ?_
      (hors.map hf) (hus.map hf fun inside e hinside => hbody inside e (hinside.of_infix hright))
    simpa using hne

/-- What is derived from tokens is derived from them in another place, if what is inside
parentheses is. -/
theorem Sequence.map {ts : List Token} {e : Expr} (h : Sequence body ts e)
    (hbody : ∀ inside e, Encloses ts inside → body inside e → body' (inside.map f) e) :
    Sequence body' (ts.map f) e := by
  cases h with
  | blank hts => exact .blank (hts.map hf)
  | @alternatives before ts after as hbefore hts hafter =>
    have hpart : ts <:+: before ++ ts ++ after := List.infix_append before ts after
    rw [List.map_append, List.map_append]
    exact .alternatives (hbefore.map hf)
      (hts.map hf fun inside e hinside => hbody inside e (hinside.of_infix hpart))
      (hafter.map hf)

/-- Where tokens stand in the text does not matter. -/
theorem Derives.map {levels : Nat} {ts : List Token} {e : Expr} (h : Derives levels ts e) :
    Derives levels (ts.map f) e := by
  induction levels generalizing ts e with
  | zero =>
    refine Sequence.map hf h ?_
    intro inside e _ he
    exact he
  | succ levels ih =>
    refine Sequence.map hf h ?_
    intro inside e _ he
    exact ih he

omit hf in
/-- How many levels of parentheses there may be does not matter, if the tokens have no more. -/
theorem Derives.of_nestsAtMost {levels limit : Nat} {ts : List Token} {e : Expr}
    (h : Derives levels ts e) (hts : Balanced ts) (hlimit : NestsAtMost limit ts) :
    Derives limit ts e := by
  induction levels generalizing limit ts e with
  | zero =>
    rw [← List.map_id ts]
    cases limit with
    | zero => exact Sequence.map keepsText_id h fun _ _ _ he => he.elim
    | succ limit => exact Sequence.map keepsText_id h fun _ _ _ he => he.elim
  | succ levels ih =>
    rw [← List.map_id ts]
    cases limit with
    | zero =>
      refine Sequence.map keepsText_id h ?_
      intro inside e hinside _
      exact absurd hinside (Encloses.not_of_nestsAtMost_zero hts hlimit)
    | succ limit =>
      refine Sequence.map keepsText_id h ?_
      intro inside e hinside he
      rw [List.map_id]
      exact ih he hinside.1 (hinside.nestsAtMost hts hlimit)

end Grammar

end RecordFilter
