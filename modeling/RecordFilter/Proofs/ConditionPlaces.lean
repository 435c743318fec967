import Mathlib.Control.Monad.Basic
import Mathlib.Data.List.Forall2
import RecordFilter.Proofs.Reading

/-!
# Where the conditions of a tree stand

The conditions of a tree that is read are those of the tokens, in their order: each is a field, an
operator and a value that stand side by side, no token belongs to two of them, and the tokens that
belong to none are bare parentheses and conjunctions (`conditions_of_parseTokens`). So no condition
is lost, written twice or moved, although a conjunction is put aside at each `or` and the inside of
parentheses is read apart from the rest.

`Spells` says it by the rules of how such tokens are made up, `AreWrittenAt` by the places of the
conditions. The reading keeps the first: what has been read spells the conditions taken up so far
and the beginning of one term (`Progress.Accounts`).
-/

namespace RecordFilter

/-- The token is a bare parenthesis or a bare conjunction. -/
def Token.IsStructural (t : Token) : Prop :=
  t.isOpening = true ∨ t.isClosing = true ∨ t.isKeyword "and" = true ∨ t.isKeyword "or" = true

/-- The tokens are the fields, operators and values of the conditions, in order, with parentheses
and conjunctions between. -/
inductive Spells : List Token → List Condition → Prop
  | nil : Spells [] []
  /-- A parenthesis or a conjunction more. -/
  | structural {t : Token} {ts : List Token} {cs : List Condition} (ht : t.IsStructural)
    (h : Spells ts cs) : Spells (t :: ts) cs
  /-- A condition more. -/
  | condition {field symbol : Token} {o : Operator} {ts : List Token} {cs : List Condition}
    (hsymbol : symbol.isSymbol o.symbol = true) (value : Token) (h : Spells ts cs) :
    Spells (field :: symbol :: value :: ts) (⟨field.text, o, value.text⟩ :: cs)

/-- The field of the condition is the token at the place, its operator the next one and its value
the one after that. -/
def IsWrittenAt (ts : List Token) (place : Nat) (c : Condition) : Prop :=
  ∃ field symbol value, ts[place]? = some field ∧ ts[place + 1]? = some symbol ∧
    ts[place + 2]? = some value ∧ c.field = field.text ∧
    symbol.isSymbol c.operator.symbol = true ∧ c.value = value.text

/-- The conditions are written at the places, in order, and nothing else is written. -/
structure AreWrittenAt (ts : List Token) (places : List Nat) (cs : List Condition) : Prop where
  /-- Each place leaves room for the three tokens at the one before. -/
  apart : places.Pairwise fun i j => i + 3 ≤ j
  /-- At each place is the condition whose turn it is. -/
  written : List.Forall₂ (IsWrittenAt ts) places cs
  /-- All other tokens are parentheses and conjunctions. -/
  structural : ∀ k t, ts[k]? = some t → (∀ i ∈ places, k < i ∨ i + 3 ≤ k) → t.IsStructural

/-! ## Rows of tokens -/

namespace Spells

variable {ts us : List Token} {cs ds : List Condition}

theorem append (hts : Spells ts cs) (hus : Spells us ds) : Spells (ts ++ us) (cs ++ ds) := by
  induction hts with
  | nil => exact hus
  | structural ht _ ih => exact .structural ht ih
  | condition hsymbol value _ ih => exact .condition hsymbol value ih

theorem append_structural (h : Spells ts cs) {t : Token} (ht : t.IsStructural) :
    Spells (ts ++ [t]) cs := by
  have happend := h.append (.structural ht .nil)
  rwa [List.append_nil] at happend

end Spells

/-! ## Places -/

section Places

variable {ts : List Token} {places : List Nat} {cs : List Condition}

theorem IsWrittenAt.append_left {place : Nat} {c : Condition} (h : IsWrittenAt ts place c)
    (us : List Token) : IsWrittenAt (us ++ ts) (us.length + place) c := by
  obtain ⟨field, symbol, value, hfield, hsymbol, hvalue, hc⟩ := h
  refine ⟨field, symbol, value, ?_, ?_, ?_, hc⟩
  · rwa [List.getElem?_append_right (by omega), Nat.add_sub_cancel_left]
  · rwa [Nat.add_assoc, List.getElem?_append_right (by omega), Nat.add_sub_cancel_left]
  · rwa [Nat.add_assoc, List.getElem?_append_right (by omega), Nat.add_sub_cancel_left]

/-- With tokens put before, the places move on, and keep what they had. -/
theorem AreWrittenAt.append_left (h : AreWrittenAt ts places cs) (us : List Token) :
    (places.map (us.length + ·)).Pairwise (fun i j => i + 3 ≤ j) ∧
      List.Forall₂ (IsWrittenAt (us ++ ts)) (places.map (us.length + ·)) cs ∧
      ∀ k t, us.length ≤ k → (us ++ ts)[k]? = some t →
        (∀ i ∈ places.map (us.length + ·), k < i ∨ i + 3 ≤ k) → t.IsStructural := by
  refine ⟨?_, ?_, ?_⟩
  · apply List.pairwise_map.2
    apply h.apart.imp
    intro i j hij
    omega
  · apply List.forall₂_map_left_iff.2
    apply h.written.imp
    intro i c hc
    exact hc.append_left us
  · intro k t hk ht hplaces
    rw [List.getElem?_append_right hk] at ht
    apply h.structural (k - us.length) t ht
    intro i hi
    have hmoved := hplaces (us.length + i) (List.mem_map_of_mem hi)
    omega

/-- Tokens that spell conditions have places for them. -/
theorem Spells.exists_areWrittenAt (h : Spells ts cs) : ∃ places, AreWrittenAt ts places cs := by
  induction h with
  | nil =>
    refine ⟨[], .nil, .nil, ?_⟩
    intro k t ht
    cases ht
  | @structural t ts cs ht _ ih =>
    obtain ⟨places, hplaces⟩ := ih
    obtain ⟨hapart, hwritten, hrest⟩ := hplaces.append_left [t]
    refine ⟨_, hapart, hwritten, ?_⟩
    intro k u hu hother
    cases k with
    | zero =>
      obtain rfl : t = u := Option.some.inj hu
      exact ht
    | succ k => exact hrest (k + 1) u (Nat.le_add_left 1 k) hu hother
  | @condition field symbol o ts cs hsymbol value _ ih =>
    obtain ⟨places, hplaces⟩ := ih
    obtain ⟨hapart, hwritten, hrest⟩ := hplaces.append_left [field, symbol, value]
    have hfirst : IsWrittenAt ([field, symbol, value] ++ ts) 0 ⟨field.text, o, value.text⟩ :=
      ⟨field, symbol, value, rfl, rfl, rfl, rfl, hsymbol, rfl⟩
    refine ⟨0 :: places.map (3 + ·), List.pairwise_cons.2 ⟨?_, hapart⟩, .cons hfirst hwritten, ?_⟩
    · intro j hj
      obtain ⟨i, -, rfl⟩ := List.mem_map.1 hj
      omega
    · intro k u hu hother
      obtain ⟨hzero, hlater⟩ := List.forall_mem_cons.1 hother
      exact hrest k u (by simpa using hzero) hu hlater

end Places

/-! ## Conditions taken up -/

theorem Expr.conditionsOfAll_append (as bs : List Expr) :
    conditionsOfAll (as ++ bs) = conditionsOfAll as ++ conditionsOfAll bs := by
  simp only [conditionsOfAll_eq_flatMap, List.flatMap_append]

/-- Each tree that is read has the conditions that the tokens spell. -/
def BodyReader.ReadsSpelled (body : BodyReader) : Prop :=
  ∀ ts e, body ts = .ok e → Spells ts e.conditions

namespace Progress

variable {mode : ParseMode} {body? : Option BodyReader} {p q : Progress} {t : Token}
  {ts : List Token}

/-- The conditions that have been taken up, from left to right. -/
def conditions (p : Progress) : List Condition :=
  Expr.conditionsOfAll p.alternatives.reverse ++ Expr.conditionsOfAll p.terms.reverse

theorem conditions_addTerm (p : Progress) (e : Expr) :
    (p.addTerm e).conditions = p.conditions ++ e.conditions := by
  simp only [conditions, addTerm, List.reverse_cons, Expr.conditionsOfAll_append,
    Expr.conditionsOfAll, List.append_assoc, List.append_nil]

/-- The conditions of the conjunction that ends are put behind those of the others. -/
theorem conditionsOfAll_endConjunction (p : Progress) :
    Expr.conditionsOfAll p.endConjunction.alternatives.reverse = p.conditions := by
  by_cases hterms : p.terms = []
  · simp only [conditions, endConjunction, hterms, List.reverse_nil, Expr.conditionsOfAll,
      List.append_nil]
  · rw [endConjunction_of_ne_nil hterms, List.reverse_cons, Expr.conditionsOfAll_append, conditions]
    simp only [Expr.conditionsOfAll, Expr.conditions_join, List.append_nil]

theorem conditions_endConjunction (p : Progress) :
    p.endConjunction.conditions = p.conditions := by
  have hterms : p.endConjunction.terms = [] := by
    rw [endConjunction]
    split
    next h => exact h
    next => rfl
  rw [conditions, conditionsOfAll_endConjunction, hterms]
  exact List.append_nil p.conditions

theorem conditions_expr (p : Progress) : p.expr.conditions = p.conditions := by
  rw [expr, Expr.conditions_join, conditionsOfAll_endConjunction]

/-- The tokens are the conditions that have been taken up, and then what the progress keeps of the
term it is in the middle of. -/
def Accounts (ts : List Token) (p : Progress) : Prop :=
  match p.phase with
  | .between => Spells ts p.conditions
  | .term _ => Spells ts p.conditions
  | .operator field => ∃ us, ts = us ++ [field] ∧ Spells us p.conditions
  | .value field o symbol =>
    symbol.isSymbol o.symbol = true ∧
      ∃ us, ts = us ++ [field, symbol] ∧ Spells us p.conditions
  | .body opening _ inside =>
    opening.isOpening = true ∧
      ∃ us, ts = us ++ opening :: inside.reverse ∧ Spells us p.conditions

theorem Accounts.between (h : p.Accounts ts) (hphase : p.phase = .between) :
    Spells ts p.conditions := by
  simpa only [Accounts, hphase] using h

theorem Accounts.takes (h : p.Accounts ts) (hp : p.Takes t) : Spells ts p.conditions := by
  rcases hp with ⟨conjunction, hphase⟩ | ⟨hphase, -, -⟩
  · simpa only [Accounts, hphase] using h
  · exact h.between hphase

theorem Accounts.operator (h : p.Accounts ts) {field : Token} (hphase : p.phase = .operator field) :
    ∃ us, ts = us ++ [field] ∧ Spells us p.conditions := by
  simpa only [Accounts, hphase] using h

theorem Accounts.value (h : p.Accounts ts) {field symbol : Token} {o : Operator}
    (hphase : p.phase = .value field o symbol) :
    symbol.isSymbol o.symbol = true ∧
      ∃ us, ts = us ++ [field, symbol] ∧ Spells us p.conditions := by
  simpa only [Accounts, hphase] using h

theorem Accounts.body (h : p.Accounts ts) {opening : Token} {d : Nat} {inside : List Token}
    (hphase : p.phase = .body opening d inside) :
    opening.isOpening = true ∧
      ∃ us, ts = us ++ opening :: inside.reverse ∧ Spells us p.conditions := by
  simpa only [Accounts, hphase] using h

variable (hbody : ∀ body, body? = some body → body.ReadsSpelled)
include hbody

/-- What a token does leaves all tokens accounted for. -/
theorem Accounts.moves (h : p.Accounts ts) (hmoves : Moves body? p t q) :
    q.Accounts (ts ++ [t]) := by
  cases hmoves with
  | alternative hphase ht =>
    have hspells : Spells (ts ++ [t]) p.conditions :=
      (h.between hphase).append_structural (.inr (.inr (.inr ht)))
    simp only [Accounts, endConjunction_phase, hphase, conditions_endConjunction]
    exact hspells
  | conjunction hphase ht =>
    exact (h.between hphase).append_structural (.inr (.inr (.inl ht)))
  | group hp ht _ => exact ⟨ht, ts, rfl, h.takes hp⟩
  | field hp _ => exact ⟨ts, rfl, h.takes hp⟩
  | operator hphase ht =>
    obtain ⟨us, rfl, hus⟩ := h.operator hphase
    exact ⟨ht, us, List.append_assoc _ _ _, hus⟩
  | value hphase =>
    obtain ⟨hsymbol, us, rfl, hus⟩ := h.value hphase
    show Spells _ _
    rw [conditions_addTerm, List.append_assoc]
    exact hus.append (.condition hsymbol t .nil)
  | @inside opening d d' inside hphase _ =>
    obtain ⟨hopening, us, rfl, hus⟩ := h.body hphase
    exact ⟨hopening, us, by simp, hus⟩
  | @close opening inside body e hphase ht hsome he _ =>
    obtain ⟨hopening, us, rfl, hus⟩ := h.body hphase
    have hinside : Spells inside.reverse e.conditions := hbody body hsome _ e he
    have hgroup : Spells (opening :: inside.reverse ++ [t]) e.conditions :=
      (Spells.structural (.inl hopening) hinside).append_structural (.inr (.inl ht))
    show Spells _ _
    rw [conditions_addTerm, List.append_assoc]
    exact hus.append hgroup

theorem Accounts.ends (h : p.Accounts ts) {e : Expr} (hends : Ends mode body? p e) :
    Spells ts e.conditions := by
  cases hends with
  | between hphase =>
    rw [conditions_expr]
    exact h.between hphase
  | @body opening d inside body e _ hphase hsome he _ =>
    -- the group ends where the tokens do, with no parenthesis of its own
    obtain ⟨hopening, us, rfl, hus⟩ := h.body hphase
    rw [conditions_expr, conditions_addTerm]
    exact hus.append (.structural (.inl hopening) (hbody body hsome _ e he))

theorem readsSpelled_readSequence (mode : ParseMode) :
    BodyReader.ReadsSpelled (readSequence mode body?) := by
  intro ts e h
  have hstart : start.Accounts [] := Spells.nil
  obtain ⟨p, hp, hends⟩ := exists_ends_of_readSequence (P := fun us p => p.Accounts us)
    (fun _ _ _ _ hp hmoves => Accounts.moves hbody hp hmoves) hstart h
  exact Accounts.ends hbody hp hends

end Progress

theorem readsSpelled_readNested (mode : ParseMode) (levels : Nat) :
    BodyReader.ReadsSpelled (readNested mode levels) :=
  readNested_induct (fun _ hbody => Progress.readsSpelled_readSequence hbody mode) levels

/-- There are places, each with room for three tokens, where the conditions of the tree that is
read are written, in order and all of them, and all other tokens are bare parentheses and bare
conjunctions. -/
theorem conditions_of_parseTokens {mode : ParseMode} {ts : List Token} {e : Expr}
    (h : parseTokens mode ts = .ok e) :
    ∃ places, AreWrittenAt ts places e.conditions ∧ places.length = e.conditionCount := by
  obtain ⟨places, hplaces⟩ := (readsSpelled_readNested mode maxDepth ts e h).exists_areWrittenAt
  exact ⟨places, hplaces, hplaces.written.length_eq⟩

/-- Conjunctions and parentheses are operands here and structure there. -/
theorem conditions_of_parseTokens_operands :
    ∃ places, AreWrittenAt
      [.bare "or" 0, .bare "and" 3, .bare "and" 7, .bare "=" 11, .bare "(" 13, .bare "or" 15,
        .bare "(" 18, .bare "a" 19, .bare "~" 21, .bare "or" 23, .bare "or" 26, .bare "b" 29,
        .bare "=" 31, .bare "and" 33] places
      [⟨"and", .equals, "("⟩, ⟨"a", .contains, "or"⟩, ⟨"b", .equals, "and"⟩] ∧
      places.length = 3 := by
  have hread : parseTokens .permissive
      [.bare "or" 0, .bare "and" 3, .bare "and" 7, .bare "=" 11, .bare "(" 13, .bare "or" 15,
        .bare "(" 18, .bare "a" 19, .bare "~" 21, .bare "or" 23, .bare "or" 26, .bare "b" 29,
        .bare "=" 31, .bare "and" 33] =
      .ok (.group .or [.condition ⟨"and", .equals, "("⟩,
        .group .or [.condition ⟨"a", .contains, "or"⟩, .condition ⟨"b", .equals, "and"⟩]]) := by
    decide +kernel
  exact conditions_of_parseTokens hread

end RecordFilter
