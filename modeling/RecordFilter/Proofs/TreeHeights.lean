import Mathlib.Algebra.Ring.Nat
import RecordFilter.Proofs.CanonicalIdentity
import RecordFilter.Proofs.Grammar

/-!
# How high the trees are that are read

Checking a record and writing the canonical form go down a tree group by group, so the number of
groups one inside the other (`Expr.nesting`) is how deep they recurse. It is limited for the trees
that are read, however many tokens there are (`parseTokens_shape`): a level of parentheses adds a
conjunction and an `or` group around it to what stands inside, and nothing else. The limit is
reached (`readNested_tower`, `Expr.nesting_towerTree`).

With this goes what is known of the groups themselves: each has two children or more, so a tree that
restricts something has a condition and is written as some text.
-/

namespace RecordFilter

namespace Expr

/-! ## Trees -/

theorem nesting_join_le (k : Connective) {es : List Expr} {n : Nat}
    (h : ∀ e ∈ es, e.nesting ≤ n) : (join k es).nesting ≤ n + 1 := by
  match es with
  | [e] =>
    have he : e.nesting ≤ n := h e (by simp)
    exact Nat.le_succ_of_le he
  | [] => exact nesting_group_le_succ_iff.2 h
  | _ :: _ :: _ => exact nesting_group_le_succ_iff.2 h

@[simp] theorem conditionCount_condition (c : Condition) :
    (condition c).conditionCount = 1 := rfl

/-- A group has the conditions of its children. -/
theorem conditionCount_group (k : Connective) (es : List Expr) :
    (group k es).conditionCount = (es.map conditionCount).sum := by
  rw [conditionCount, conditions, conditionsOfAll_eq_flatMap, List.length_flatMap]
  rfl

/-- A tree with no empty group has a condition. -/
theorem IsFilled.conditionCount_pos {e : Expr} (h : e.IsFilled) : 0 < e.conditionCount := by
  induction e with
  | condition c => simp
  | group k es ih =>
    obtain ⟨hne, hes⟩ := isFilled_group.1 h
    cases es with
    | nil => exact absurd rfl hne
    | cons e rest =>
      have hfirst : 0 < e.conditionCount := ih e (by simp) (hes e (by simp))
      rw [conditionCount_group, List.map_cons, List.sum_cons]
      omega

end Expr

/-! ## The height of what is read -/

/-- Each tree that is read has at most `n` groups one inside the other. -/
def BodyReader.ReadsWithin (n : Nat) (body : BodyReader) : Prop :=
  ∀ ts e, body ts = .ok e → e.nesting ≤ n

namespace Progress

variable {mode : ParseMode} {body? : Option BodyReader} {p q : Progress} {t : Token} {n : Nat}

/-- The terms have at most `n` groups one inside the other, the finished conjunctions one more. -/
structure StaysWithin (n : Nat) (p : Progress) : Prop where
  alternatives : ∀ e ∈ p.alternatives, e.nesting ≤ n + 1
  terms : ∀ e ∈ p.terms, e.nesting ≤ n

theorem staysWithin_start (n : Nat) : start.StaysWithin n :=
  ⟨fun _ he => absurd he List.not_mem_nil, fun _ he => absurd he List.not_mem_nil⟩

theorem StaysWithin.addTerm (h : p.StaysWithin n) {e : Expr} (he : e.nesting ≤ n) :
    (p.addTerm e).StaysWithin n :=
  ⟨h.alternatives, List.forall_mem_cons.2 ⟨he, h.terms⟩⟩

theorem StaysWithin.endConjunction (h : p.StaysWithin n) : p.endConjunction.StaysWithin n := by
  by_cases hterms : p.terms = []
  · rw [Progress.endConjunction, hterms]
    exact h
  · have hjoin : (Expr.join .and p.terms.reverse).nesting ≤ n + 1 := by
      apply Expr.nesting_join_le
      intro e he
      exact h.terms e (List.mem_reverse.1 he)
    rw [endConjunction_of_ne_nil hterms]
    exact ⟨List.forall_mem_cons.2 ⟨hjoin, h.alternatives⟩,
      fun _ he => absurd he List.not_mem_nil⟩

theorem StaysWithin.expr (h : p.StaysWithin n) : p.expr.nesting ≤ n + 2 := by
  apply Expr.nesting_join_le
  intro e he
  exact h.endConjunction.alternatives e (List.mem_reverse.1 he)

variable (hbody : ∀ body, body? = some body → body.ReadsWithin n)
include hbody

/-- What a token does keeps the trees within the limit. -/
theorem StaysWithin.moves (h : p.StaysWithin n) (hmoves : Moves body? p t q) :
    q.StaysWithin n := by
  cases hmoves with
  | alternative => exact h.endConjunction
  | value => exact h.addTerm (Nat.zero_le n)
  | close _ _ hsome he _ => exact h.addTerm (hbody _ hsome _ _ he)
  | conjunction | group | field | operator | inside => exact ⟨h.alternatives, h.terms⟩

theorem StaysWithin.ends (h : p.StaysWithin n) {e : Expr} (hends : Ends mode body? p e) :
    e.nesting ≤ n + 2 := by
  cases hends with
  | between => exact h.expr
  | body _ _ hsome he _ => exact (h.addTerm (hbody _ hsome _ _ he)).expr

/-- A sequence adds two groups to what stands inside its parentheses. -/
theorem readsWithin_readSequence (mode : ParseMode) :
    BodyReader.ReadsWithin (n + 2) (readSequence mode body?) := by
  intro ts e h
  obtain ⟨p, hp, hends⟩ := exists_ends_of_readSequence (P := fun _ p => p.StaysWithin n)
    (fun _ _ _ _ hp hmoves => StaysWithin.moves hbody hp hmoves) (staysWithin_start n) h
  exact StaysWithin.ends hbody hp hends

end Progress

theorem readsWithin_readNested (mode : ParseMode) (levels : Nat) :
    BodyReader.ReadsWithin (2 * (levels + 1)) (readNested mode levels) := by
  induction levels with
  | zero =>
    rw [readNested_zero]
    apply Progress.readsWithin_readSequence
    intro body hbody
    cases hbody
  | succ levels ih =>
    rw [readNested_succ]
    apply Progress.readsWithin_readSequence
    rintro body ⟨rfl⟩
    exact ih

/-! ## Trees that are as high as can be -/

/-- The comparison `a = b`, as it is written in `tower`. -/
def towerLeaf : List Token :=
  [.bare "a" 0, .bare "=" 0, .bare "b" 0]

/-- The tokens of `a = b and … or a = b`, with `term` in the middle. -/
def towerStorey (term : List Token) : List Token :=
  towerLeaf ++ .bare "and" 0 :: term ++ [.bare "or" 0] ++ towerLeaf

/-- Tokens in which parentheses nest `n` deep, each pair in a conjunction in an alternative. -/
def tower : (n : Nat) → List Token
  | 0 => towerStorey towerLeaf
  | n + 1 => towerStorey (.bare "(" 0 :: (tower n ++ [.bare ")" 0]))

/-- The tree of `towerStorey`, with the tree `e` in the middle. -/
def towerStoreyTree (e : Expr) : Expr :=
  .group .or [.group .and [.condition ⟨"a", .equals, "b"⟩, e], .condition ⟨"a", .equals, "b"⟩]

/-- The tree of the tokens `tower n`. -/
def towerTree : (n : Nat) → Expr
  | 0 => towerStoreyTree (.condition ⟨"a", .equals, "b"⟩)
  | n + 1 => towerStoreyTree (towerTree n)

namespace Grammar

theorem term_towerLeaf (body : BodyRule) :
    Term body towerLeaf (.condition ⟨"a", .equals, "b"⟩) :=
  .condition rfl rfl (.bare "b" 0)

theorem sequence_towerStorey {body : BodyRule} {term : List Token} {e : Expr}
    (h : Term body term e) : Sequence body (towerStorey term) (towerStoreyTree e) := by
  have hopens : (Token.bare "a" 0).OpensTerm := ⟨rfl, rfl, rfl⟩
  have hleaf : Conjunction body towerLeaf [.condition ⟨"a", .equals, "b"⟩] :=
    .term (term_towerLeaf body) hopens
  have hboth : Conjunction body (towerLeaf ++ .bare "and" 0 :: term)
      ([.condition ⟨"a", .equals, "b"⟩] ++ [e]) := .and hleaf rfl h
  have halternatives := Alternatives.or (.conjunction hboth) (List.cons_ne_nil _ [])
    (allOr_singleton (t := .bare "or" 0) rfl) hleaf
  exact halternatives.sequence

end Grammar

theorem balanced_towerLeaf : Balanced towerLeaf :=
  balanced_iff.2 rfl

theorem balanced_towerStorey {term : List Token} (h : Balanced term) :
    Balanced (towerStorey term) := by
  have hmiddle : Balanced (.bare "and" 0 :: term ++ [.bare "or" 0]) :=
    (h.cons rfl rfl).append (balanced_iff.2 rfl)
  have hall := (balanced_towerLeaf.append hmiddle).append balanced_towerLeaf
  simpa only [towerStorey, List.append_assoc, List.cons_append] using hall

theorem balanced_tower (n : Nat) : Balanced (tower n) := by
  induction n with
  | zero => exact balanced_towerStorey balanced_towerLeaf
  | succ n ih => exact balanced_towerStorey (ih.group rfl rfl)

theorem isVacuous_towerTree (n : Nat) : (towerTree n).isVacuous = false := by
  cases n <;> rfl

theorem readNested_tower (levels : Nat) :
    readNested .strict levels (tower levels) = .ok (towerTree levels) := by
  rw [readNested_eq_ok_iff]
  induction levels with
  | zero => exact Grammar.sequence_towerStorey (Grammar.term_towerLeaf _)
  | succ levels ih =>
    have hgroup : Grammar.Term (Grammar.Derives levels)
        (.bare "(" 0 :: (tower levels ++ [.bare ")" 0])) (towerTree levels) :=
      .group rfl (balanced_tower levels) rfl ih (isVacuous_towerTree levels)
    exact Grammar.sequence_towerStorey hgroup

/-- The trees read from towers are as high as trees that are read can be. -/
theorem nesting_towerTree (n : Nat) : (towerTree n).nesting = 2 * (n + 1) := by
  induction n with
  | zero => rfl
  | succ n ih =>
    simp only [towerTree, towerStoreyTree, Expr.nesting, Expr.nestingOfAll, ih]
    omega

/-- The tree that is read from any tokens restricts nothing, or has two children or more in every
group, a condition, and a canonical form that is not empty. No more than two groups for each level
of parentheses, and two for the outermost, stand one inside the other. -/
theorem parseTokens_shape {mode : ParseMode} {ts : List Token} {e : Expr}
    (h : parseTokens mode ts = .ok e) :
    (e = .vacuous ∨ e.IsBranching ∧ 0 < e.conditionCount ∧ e.render ≠ "") ∧
      e.nesting ≤ 130 := by
  constructor
  · rcases readsBranching_readNested mode maxDepth ts e h with hbranching | hvacuous
    · exact .inr ⟨hbranching, hbranching.isFilled.conditionCount_pos,
        Expr.render_ne_empty hbranching.isFilled⟩
    · exact .inl hvacuous
  · exact readsWithin_readNested mode maxDepth ts e h

/-- The highest tower reaches the limit. -/
theorem parseTokens_shape_tower :
    parseTokens .strict (tower maxDepth) = .ok (towerTree maxDepth) ∧
    (towerTree maxDepth = .vacuous ∨
      (towerTree maxDepth).IsBranching ∧ 0 < (towerTree maxDepth).conditionCount ∧
        (towerTree maxDepth).render ≠ "") ∧
    (towerTree maxDepth).nesting ≤ 130 ∧ (towerTree maxDepth).nesting = 130 := by
  have hread : parseTokens .strict (tower maxDepth) = .ok (towerTree maxDepth) :=
    readNested_tower maxDepth
  obtain ⟨hshape, hnesting⟩ := parseTokens_shape hread
  exact ⟨hread, hshape, hnesting, nesting_towerTree maxDepth⟩

end RecordFilter
