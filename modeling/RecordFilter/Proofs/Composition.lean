import Mathlib.Control.Monad.Basic
import RecordFilter.Proofs.Relocation
import RecordFilter.Proofs.Seams
import RecordFilter.Proofs.Tree

/-!
# Filters made of filters

Two filter texts with an `or` between them are a filter text for either of the two, and two filter
texts in parentheses with an `and` between them are one for both (`parse_compose`).

The tokens of such a text are those of its parts (`tokenize_between`), and the trees are joined by
the grammar: two sequences with an `or` between them are a sequence (`Grammar.Sequence.or`), and so
are two groups with an `and` between them (`Grammar.derives_and_groups`). A part that was a filter
of its own is inside parentheses then, so its own may nest one level less deep.
-/

namespace RecordFilter

/-- The filter `e` is for what `a` or `b` is for, and a part that restricts nothing is left out. -/
structure IsDisjunction (a b e : Expr) : Prop where
  eq_right : a.isVacuous = true → e = b
  eq_left : b.isVacuous = true → e = a
  eval_eq : a.isVacuous = false → b.isVacuous = false →
    ∀ (ρ : Type) [Record ρ] (r : ρ), e.eval r = (a.eval r || b.eval r)
  conditions_eq : e.conditions = a.conditions ++ b.conditions

/-- Parentheses can be put around the filter text: its own are balanced, and leave a level over. -/
def CanBeEnclosed (text : String) : Prop :=
  ∃ ts, tokenize text = .ok ts ∧ Balanced ts ∧ NestsAtMost (maxDepth - 1) ts

/-! ## Trees joined -/

theorem Expr.isVacuous_join (k : Connective) {es : List Expr} (hne : es ≠ [])
    (hes : ∀ e ∈ es, e.isVacuous = false) : (join k es).isVacuous = false := by
  match es with
  | [] => exact absurd rfl hne
  | [e] => exact hes e (by simp)
  | _ :: _ :: _ => rfl

theorem Expr.eval_join_or_append {ρ : Type} [Record ρ] (r : ρ) {as bs : List Expr}
    (has : as ≠ []) (hbs : bs ≠ []) :
    (join .or (as ++ bs)).eval r = ((join .or as).eval r || (join .or bs).eval r) := by
  have hne : as ++ bs ≠ [] := by simp [has]
  have heval {es : List Expr} (hes : es ≠ []) : (join .or es).eval r = es.any (eval r) := by
    rw [eval_join, eval, evalAny_eq_any, List.isEmpty_eq_false_iff.2 hes, Bool.false_or]
  rw [heval hne, heval has, heval hbs, List.any_append]

namespace IsDisjunction

theorem of_vacuous_left {b : Expr} (hb : b.isVacuous = true → b = .vacuous) :
    IsDisjunction .vacuous b b where
  eq_right _ := rfl
  eq_left := hb
  eval_eq h := by cases h
  conditions_eq := rfl

theorem of_vacuous_right {a : Expr} (ha : a.isVacuous = false) : IsDisjunction a .vacuous a where
  eq_right h := by
    rw [ha] at h
    cases h
  eq_left _ := rfl
  eval_eq _ h := by cases h
  conditions_eq := by
    rw [Expr.vacuous, Expr.conditions, Expr.conditionsOfAll, List.append_nil]

theorem join {as bs : List Expr} (has : as ≠ []) (hbs : bs ≠ [])
    (ha : (Expr.join .or as).isVacuous = false) (hb : (Expr.join .or bs).isVacuous = false) :
    IsDisjunction (.join .or as) (.join .or bs) (.join .or (as ++ bs)) where
  eq_right h := by
    rw [ha] at h
    cases h
  eq_left h := by
    rw [hb] at h
    cases h
  eval_eq _ _ _ _ r := Expr.eval_join_or_append r has hbs
  conditions_eq := by
    rw [Expr.conditions_join, Expr.conditions_join, Expr.conditions_join,
      Expr.conditionsOfAll_eq_flatMap, Expr.conditionsOfAll_eq_flatMap,
      Expr.conditionsOfAll_eq_flatMap, List.flatMap_append]

end IsDisjunction

/-! ## Rows of tokens joined -/

namespace Grammar

variable {body : BodyRule} {ts us : List Token} {a b : Expr} {as bs : List Expr}

theorem Term.isVacuous {e : Expr} (h : Term body ts e) : e.isVacuous = false := by
  cases h with
  | group _ _ _ _ hv => exact hv
  | condition _ _ _ => rfl

theorem Conjunction.isVacuous {es : List Expr} (h : Conjunction body ts es) :
    ∀ e ∈ es, e.isVacuous = false := by
  induction h with
  | term h _ =>
    intro e he
    rw [List.mem_singleton.1 he]
    exact h.isVacuous
  | announced _ h =>
    intro e he
    rw [List.mem_singleton.1 he]
    exact h.isVacuous
  | and _ _ hus ih =>
    intro e he
    rcases List.mem_append.1 he with he | he
    · exact ih e he
    · rw [List.mem_singleton.1 he]
      exact hus.isVacuous

theorem Alternatives.isVacuous (h : Alternatives body ts as) :
    as ≠ [] ∧ ∀ e ∈ as, e.isVacuous = false := by
  induction h with
  | conjunction h =>
    constructor
    · exact List.cons_ne_nil _ _
    · intro e he
      rw [List.mem_singleton.1 he]
      exact Expr.isVacuous_join .and h.ne_nil h.isVacuous
  | or _ _ _ hus ih =>
    constructor
    · simp
    · intro e he
      rcases List.mem_append.1 he with he | he
      · exact ih.2 e he
      · rw [List.mem_singleton.1 he]
        exact Expr.isVacuous_join .and hus.ne_nil hus.isVacuous

theorem Alternatives.isVacuous_join (h : Alternatives body ts as) :
    (Expr.join .or as).isVacuous = false :=
  Expr.isVacuous_join .or h.isVacuous.1 h.isVacuous.2

theorem Alternatives.append {ors : List Token} (hts : Alternatives body ts as) (hne : ors ≠ [])
    (hors : AllOr ors) (hus : Alternatives body us bs) :
    Alternatives body (ts ++ ors ++ us) (as ++ bs) := by
  induction hus with
  | conjunction h => exact .or hts hne hors h
  | @or us ors' vs bs es _ hne' hors' hvs ih =>
    have hlast := Alternatives.or ih hne' hors' hvs
    simpa only [List.append_assoc] using hlast

/-- Two sequences with an `or` between them are a sequence. -/
theorem Sequence.or (hts : Sequence body ts a) {t : Token} (ht : t.isKeyword "or" = true)
    (hus : Sequence body us b) :
    ∃ e, Sequence body (ts ++ t :: us) e ∧ IsDisjunction a b e := by
  have hor : AllOr [t] := allOr_singleton ht
  cases hts with
  | blank hts =>
    cases hus with
    | blank hus =>
      refine ⟨.vacuous, .blank ?_, .of_vacuous_left fun _ => rfl⟩
      exact hts.append (hor.append hus)
    | @alternatives before us after bs hbefore hus hafter =>
      refine ⟨.join .or bs, ?_, .of_vacuous_left fun h => ?_⟩
      · have hfront := hts.append (hor.append hbefore)
        simpa using Sequence.alternatives hfront hus hafter
      · rw [hus.isVacuous_join] at h
        cases h
  | @alternatives before ts after as hbefore hts hafter =>
    cases hus with
    | blank hus =>
      refine ⟨.join .or as, ?_, .of_vacuous_right hts.isVacuous_join⟩
      have hback := hafter.append (hor.append hus)
      simpa using Sequence.alternatives hbefore hts hback
    | @alternatives before' us after' bs hbefore' hus hafter' =>
      refine ⟨.join .or (as ++ bs), ?_, .join hts.isVacuous.1 hus.isVacuous.1 hts.isVacuous_join
        hus.isVacuous_join⟩
      have hbetween := hafter.append (hor.append hbefore')
      simpa using Sequence.alternatives hbefore (hts.append (by simp) hbetween hus) hafter'

/-- Two groups with an `and` between them are a sequence. -/
theorem derives_and_groups {levels : Nat} {rowA rowB : List Token} {opening t : Token}
    (hopening : opening.isOpening = true) (ha : Term (Derives levels) (opening :: rowA) a)
    (ht : t.isKeyword "and" = true) (hb : Term (Derives levels) rowB b) :
    Derives (levels + 1) (opening :: rowA ++ t :: rowB) (.group .and [a, b]) := by
  have hfirst : Conjunction (Derives levels) (opening :: rowA) [a] :=
    .term ha (Token.opensTerm_of_isOpening hopening)
  have hboth : Conjunction (Derives levels) (opening :: rowA ++ t :: rowB) [a, b] :=
    .and hfirst ht hb
  have hsequence := (Alternatives.conjunction hboth).sequence
  show Sequence (Derives levels) _ _
  simpa using hsequence

end Grammar

/-! ## Texts joined -/

theorem keepsText_shift (n : Nat) : KeepsText (Token.shift n) := by
  intro t
  exact ⟨rfl, rfl⟩

theorem parse_strict_eq_ok_iff {x : String} {ts : List Token} (hx : tokenize x = .ok ts)
    {e : Expr} : parse .strict x = .ok e ↔ Grammar.Derives maxDepth ts e := by
  rw [parse, hx, mapError_ok, ok_bind, mapError_eq_ok_iff]
  exact readNested_eq_ok_iff maxDepth ts e

theorem tokenize_of_parse {mode : ParseMode} {x : String} {e : Expr} (h : parse mode x = .ok e) :
    ∃ ts, tokenize x = .ok ts := by
  obtain ⟨ts, hts, -⟩ := bind_eq_ok_iff.1 h
  exact ⟨ts, mapError_eq_ok_iff.1 hts⟩

/-- The tokens of two texts with a keyword between them. -/
theorem tokenize_between {x y : String} {ts us : List Token} (hx : tokenize x = .ok ts)
    (hy : tokenize y = .ok us) {k between : String}
    (hbetween : tokenize between = .ok [.bare k 1]) (hne : between.toList ≠ [])
    (hhead : between.toList.head?.all isBreak = true)
    (hlast : between.toList.getLast?.all isBreak = true) :
    ∃ m n, tokenize (x ++ between ++ y) = .ok (ts ++ .bare k m :: us.map (Token.shift n)) := by
  have htokens := tokenize_append_append hx hbetween hy hne hhead hlast
  rw [List.append_assoc] at htokens
  exact ⟨_, _, htokens⟩

/-- The tokens of a text in parentheses. -/
theorem tokenize_enclosed {x : String} {ts : List Token} (hx : tokenize x = .ok ts) :
    ∃ n, tokenize ("(" ++ x ++ ")") =
      .ok (.bare "(" 0 :: (ts.map (Token.shift 1) ++ [.bare ")" n])) := by
  have hopen : tokenize "(" = .ok [.bare "(" 0] := rfl
  have hclose : tokenize ")" = .ok [.bare ")" 0] := rfl
  have hfront := tokenize_append hopen hx (.inl rfl)
  have hboth := tokenize_append hfront hclose (.inr rfl)
  exact ⟨_, hboth⟩

theorem parse_or_text {x y : String} {a b : Expr} (hx : parse .strict x = .ok a)
    (hy : parse .strict y = .ok b) :
    ∃ e, parse .strict (x ++ " or " ++ y) = .ok e ∧ IsDisjunction a b e := by
  obtain ⟨ts, hts⟩ := tokenize_of_parse hx
  obtain ⟨us, hus⟩ := tokenize_of_parse hy
  have hor : tokenize " or " = .ok [.bare "or" 1] := rfl
  obtain ⟨m, n, htokens⟩ := tokenize_between hts hus hor (by decide) rfl rfl
  have ha : Grammar.Derives maxDepth ts a := (parse_strict_eq_ok_iff hts).1 hx
  have hb : Grammar.Derives maxDepth (us.map (Token.shift n)) b :=
    ((parse_strict_eq_ok_iff hus).1 hy).map (keepsText_shift n)
  have hkeyword : (Token.bare "or" m).isKeyword "or" = true := Token.isKeyword_iff.2 ⟨rfl, rfl⟩
  obtain ⟨e, he, hdisjunction⟩ := Grammar.Sequence.or ha hkeyword hb
  exact ⟨e, (parse_strict_eq_ok_iff htokens).2 he, hdisjunction⟩

/-- A filter text in parentheses is a term, where one level of parentheses is taken up. -/
theorem term_of_parse {x : String} {a : Expr} (hx : parse .strict x = .ok a)
    (hxe : CanBeEnclosed x) (ha : a.isVacuous = false) :
    ∃ opening row, opening.isOpening = true ∧
      tokenize ("(" ++ x ++ ")") = .ok (opening :: row) ∧
      Grammar.Term (Grammar.Derives (maxDepth - 1)) (opening :: row) a := by
  obtain ⟨ts, hts, hbalanced, hnests⟩ := hxe
  obtain ⟨n, htokens⟩ := tokenize_enclosed hts
  have hderives : Grammar.Derives (maxDepth - 1) ts a :=
    ((parse_strict_eq_ok_iff hts).1 hx).of_nestsAtMost hbalanced hnests
  refine ⟨_, _, rfl, htokens, .group rfl ?_ rfl (hderives.map (keepsText_shift 1)) ha⟩
  exact (keepsText_shift 1).balanced_map hbalanced

theorem parse_and_text {x y : String} {a b : Expr} (hx : parse .strict x = .ok a)
    (hy : parse .strict y = .ok b) (hxe : CanBeEnclosed x) (hye : CanBeEnclosed y)
    (ha : a.isVacuous = false) (hb : b.isVacuous = false) :
    parse .strict ("(" ++ x ++ ") and (" ++ y ++ ")") = .ok (.group .and [a, b]) := by
  obtain ⟨opening, rowA, hopening, hrowA, haTerm⟩ := term_of_parse hx hxe ha
  obtain ⟨_, rowB, -, hrowB, hbTerm⟩ := term_of_parse hy hye hb
  have hand : tokenize " and " = .ok [.bare "and" 1] := rfl
  obtain ⟨m, n, htokens⟩ := tokenize_between hrowA hrowB hand (by decide) rfl rfl
  have htext : "(" ++ x ++ ") and (" ++ y ++ ")" =
      "(" ++ x ++ ")" ++ " and " ++ ("(" ++ y ++ ")") := by
    have hbetween : ") and (" = ")" ++ " and " ++ "(" := rfl
    rw [hbetween]
    simp only [String.append_assoc]
  have hbMoved : Grammar.Term (Grammar.Derives (maxDepth - 1)) _ b :=
    hbTerm.map (keepsText_shift n) fun _ _ _ he => he.map (keepsText_shift n)
  have hkeyword : (Token.bare "and" m).isKeyword "and" = true := Token.isKeyword_iff.2 ⟨rfl, rfl⟩
  rw [htext]
  apply (parse_strict_eq_ok_iff htokens).2
  exact Grammar.derives_and_groups hopening haTerm hkeyword hbMoved

/-- Filter texts compose. With an `or` between them they are a filter for what either is for; in
parentheses, with an `and` between them, they are the group of the two. -/
theorem parse_compose {x y : String} {a b : Expr} (hx : parse .strict x = .ok a)
    (hy : parse .strict y = .ok b) :
    (∃ e, parse .strict (x ++ " or " ++ y) = .ok e ∧ IsDisjunction a b e) ∧
    (a.isVacuous = false → b.isVacuous = false → CanBeEnclosed x → CanBeEnclosed y →
      parse .strict ("(" ++ x ++ ") and (" ++ y ++ ")") = .ok (.group .and [a, b])) := by
  constructor
  · exact parse_or_text hx hy
  · intro ha hb hxe hye
    exact parse_and_text hx hy hxe hye ha hb

/-- Keywords at the seam, as values and in quotes: each belongs to its own text. -/
theorem parse_compose_keywords :
    (∃ e, parse .strict ("or (a ~ b) and name = 'or'" ++ " or " ++ "'=' = and or") = .ok e ∧
      IsDisjunction
        (.group .and [.condition ⟨"a", .contains, "b"⟩, .condition ⟨"name", .equals, "or"⟩])
        (.condition ⟨"=", .equals, "and"⟩) e) ∧
    parse .strict ("(" ++ "or (a ~ b) and name = 'or'" ++ ") and (" ++ "'=' = and or" ++ ")") =
      .ok (.group .and [
        .group .and [.condition ⟨"a", .contains, "b"⟩, .condition ⟨"name", .equals, "or"⟩],
        .condition ⟨"=", .equals, "and"⟩]) := by
  have hx : parse .strict "or (a ~ b) and name = 'or'" =
      .ok (.group .and [.condition ⟨"a", .contains, "b"⟩, .condition ⟨"name", .equals, "or"⟩]) := by
    decide +kernel
  have hy : parse .strict "'=' = and or" = .ok (.condition ⟨"=", .equals, "and"⟩) := by
    decide +kernel
  have hxe : CanBeEnclosed "or (a ~ b) and name = 'or'" := by
    refine ⟨_, rfl, balanced_iff.2 rfl, nestsAtMost_of_openings_le ?_⟩
    decide
  have hye : CanBeEnclosed "'=' = and or" := by
    refine ⟨_, rfl, balanced_iff.2 rfl, nestsAtMost_of_openings_le ?_⟩
    decide
  obtain ⟨hor, hand⟩ := parse_compose hx hy
  exact ⟨hor, hand rfl rfl hxe hye⟩

end RecordFilter
