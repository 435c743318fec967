import Mathlib.Control.Monad.Basic
import Mathlib.Data.List.Chain
import RecordFilter.Proofs.UnclosedParens

/-!
# Supplying the parentheses that are missing

Tokens in which parentheses are left open are read permissively as they are read strictly once the
missing parentheses have been put at their end (`parseTokens_permissive_eq_append`). How many are
missing is `leftOpen`: the count of ordinary bracket matching, which passes over a closing
parenthesis that has nothing to close.

The reading counts otherwise, it counts only inside the group it is in, and a parenthesis that is a
field or a value is no parenthesis to it. As long as no opening parenthesis is a value the two
counts are the same (`Progress.leftOpen_eq_unclosed`): a closing parenthesis that is a field or a
value stands where nothing is open, where `leftOpen` passes over it too.
-/

namespace RecordFilter

/-! ## Ordinary bracket matching -/

/-- How many bare parentheses are open after `ts` if `n` are before it. A closing one closes one
that is open, if there is one. -/
def leftOpen : (n : Nat) → List Token → Nat
  | n, [] => n
  | n, t :: ts =>
    if t.isOpening then leftOpen (n + 1) ts
    else if t.isClosing then leftOpen (n - 1) ts
    else leftOpen n ts

/-- No bare opening parenthesis stands directly after a bare operator. -/
def NoOpeningAfterOperator (ts : List Token) : Prop :=
  ts.IsChain fun t u => t.operator?.isSome = true → u.isOpening = false

instance (ts : List Token) : Decidable (NoOpeningAfterOperator ts) :=
  inferInstanceAs (Decidable (List.IsChain _ ts))

/-- The second reader reads the same as the first, once the missing parentheses have been put at
the end. -/
def SuppliesMissing (body body' : BodyReader) : Prop :=
  ∀ ts cs, NoOpeningAfterOperator ts → (∀ c ∈ cs, c.isClosing = true) →
    cs.length = leftOpen 0 ts → body ts = body' (ts ++ cs)

variable {t : Token} {ts us : List Token}

theorem leftOpen_append (n : Nat) (xs ys : List Token) :
    leftOpen n (xs ++ ys) = leftOpen (leftOpen n xs) ys := by
  induction xs generalizing n with
  | nil => rfl
  | cons t xs ih =>
    rw [List.cons_append, leftOpen, leftOpen]
    split
    · exact ih (n + 1)
    · split
      · exact ih (n - 1)
      · exact ih n

/-- Where nothing is closed that is not open, the two counts are the same. -/
theorem leftOpen_of_unclosedAfter {n m : Nat} (h : unclosedAfter n ts = some m) :
    leftOpen n ts = m := by
  induction n, ts, h using unclosedAfter_induct with
  | nil => rfl
  | opening n t ts ho h ih => rw [leftOpen, if_pos ho, ih]
  | closing n t ts hc h ih =>
    have ho : t.isOpening = false := Token.isOpening_of_isClosing hc
    rw [leftOpen, if_neg (by simp [ho]), if_pos hc, Nat.add_sub_cancel, ih]
  | other n t ts ho hc h ih => rw [leftOpen, if_neg (by simp [ho]), if_neg (by simp [hc]), ih]

/-- Where nothing is open, only an opening parenthesis changes that. -/
theorem leftOpen_zero_singleton (h : t.isOpening = false) : leftOpen 0 [t] = 0 := by
  rw [leftOpen, if_neg (by simp [h])]
  split <;> rfl

theorem unclosedAfter_closings {n : Nat} {cs : List Token} (h : ∀ c ∈ cs, c.isClosing = true)
    (hlen : cs.length = n) : unclosedAfter n cs = some 0 := by
  induction cs generalizing n with
  | nil =>
    obtain rfl : 0 = n := hlen
    rfl
  | cons c cs ih =>
    obtain ⟨hc, hcs⟩ := List.forall_mem_cons.1 h
    obtain rfl : cs.length + 1 = n := hlen
    rw [unclosedAfter_closing_succ _ _ hc]
    exact ih hcs rfl

theorem NoOpeningAfterOperator.of_append_left (h : NoOpeningAfterOperator (ts ++ us)) :
    NoOpeningAfterOperator ts :=
  List.IsChain.left_of_append h

theorem NoOpeningAfterOperator.of_append_right (h : NoOpeningAfterOperator (ts ++ us)) :
    NoOpeningAfterOperator us :=
  List.IsChain.right_of_append h

/-- The token after an operator is no opening parenthesis. -/
theorem NoOpeningAfterOperator.isOpening_value {field symbol : Token} {o : Operator}
    (h : NoOpeningAfterOperator (us ++ [field, symbol] ++ [t]))
    (hsymbol : symbol.isSymbol o.symbol = true) : t.isOpening = false := by
  have hpair : NoOpeningAfterOperator ([field] ++ [symbol, t]) := by
    rw [List.append_assoc] at h
    exact h.of_append_right
  have hsome : symbol.operator?.isSome = true := by
    rw [Token.operator?_eq_some_iff.2 hsymbol]
    rfl
  exact (List.isChain_pair.1 hpair.of_append_right) hsome

/-! ## The count of the reading -/

namespace Progress

variable {body? : Option BodyReader} {p q : Progress}

/-- How many parentheses are open in the group that the progress is in the middle of. -/
def unclosed (p : Progress) : Nat :=
  match p.phase with
  | .body _ d _ => d + 1
  | _ => 0

theorem Takes.unclosed (h : p.Takes t) : p.unclosed = 0 := by
  rcases h with ⟨conjunction, hphase⟩ | ⟨hphase, -, -⟩
  · simp only [Progress.unclosed, hphase]
  · simp only [Progress.unclosed, hphase]

/-- Whatever a token does, the reading and ordinary bracket matching count the same. -/
theorem leftOpen_of_moves (hmoves : Moves body? p t q) (hp : p.Recalls ts)
    (hts : NoOpeningAfterOperator (ts ++ [t])) : leftOpen p.unclosed [t] = q.unclosed := by
  cases hmoves with
  | alternative hphase ht =>
    simp only [unclosed, endConjunction_phase, hphase]
    exact leftOpen_zero_singleton (Token.isSymbol_of_isKeyword (by decide) ht)
  | conjunction hphase ht =>
    simp only [unclosed, hphase]
    exact leftOpen_zero_singleton (Token.isSymbol_of_isKeyword (by decide) ht)
  | group htakes ho _ =>
    rw [htakes.unclosed]
    exact leftOpen_of_unclosedAfter (unclosedAfter_opening 0 [] ho)
  | field htakes ho =>
    rw [htakes.unclosed]
    exact leftOpen_zero_singleton ho
  | operator hphase ht =>
    simp only [unclosed, hphase]
    exact leftOpen_zero_singleton (Token.isOpening_of_isOperator ht)
  | value hphase =>
    -- the one place where the reading takes a parenthesis for a text that could be an opening one
    obtain ⟨hsymbol, us, rfl⟩ := hp.value hphase
    simp only [unclosed, hphase]
    exact leftOpen_zero_singleton (hts.isOpening_value hsymbol)
  | inside hphase hd =>
    simp only [unclosed, hphase]
    exact leftOpen_of_unclosedAfter (unclosedAfter_add hd)
  | close hphase hc _ _ _ =>
    simp only [unclosed, hphase]
    exact leftOpen_of_unclosedAfter (unclosedAfter_closing_succ 0 [] hc)

/-- The reading leaves open what ordinary bracket matching leaves open. -/
theorem leftOpen_eq_unclosed (h : start.run body? ts = .ok p)
    (hts : NoOpeningAfterOperator ts) : leftOpen 0 ts = p.unclosed := by
  have hstart : start.Recalls [] := trivial
  have hinvariant : p.Recalls ts ∧ (NoOpeningAfterOperator ts → leftOpen 0 ts = p.unclosed) := by
    refine invariant_run (p := start)
      (P := fun us r => r.Recalls us ∧ (NoOpeningAfterOperator us → leftOpen 0 us = r.unclosed))
      ?_ [] ⟨hstart, fun _ => rfl⟩ h
    rintro us r t q ⟨hr, hcount⟩ hmoves
    refine ⟨hr.moves hmoves, fun hus => ?_⟩
    rw [leftOpen_append, hcount hus.of_append_left]
    exact leftOpen_of_moves hmoves hr hus
  exact hinvariant.2 hts

theorem phase_ne_body_of_unclosed (h : p.unclosed = 0) (opening : Token) (d : Nat)
    (inside : List Token) : p.phase ≠ .body opening d inside := by
  intro hphase
  simp [unclosed, hphase] at h

theorem exists_phase_eq_body (h : p.unclosed ≠ 0) :
    ∃ opening d inside, p.phase = .body opening d inside := by
  cases hphase : p.phase with
  | body opening d inside => exact ⟨opening, d, inside, rfl⟩
  | _ => exact absurd (by simp [unclosed, hphase]) h

/-! ## Closing what is open -/

/-- After a group, nothing keeps the sequence from ending. -/
theorem closeGroup_bind_finish (mode : ParseMode) (opening : Token) (inside : List Token) :
    (p.closeGroup body? opening inside >>= finish mode body?) =
      p.closeGroup body? opening inside >>= fun q => .ok q.expr := by
  cases hclose : p.closeGroup body? opening inside with
  | error e => rfl
  | ok q =>
    obtain ⟨_, _, _, _, _, rfl⟩ := closeGroup_eq_ok_iff.1 hclose
    rfl

/-- As many closing parentheses as are open end the group, and all but the last are inside. -/
theorem run_closings {opening : Token} {d : Nat} {inside ds : List Token} {c : Token}
    (hphase : p.phase = .body opening d inside) (hds : ∀ c ∈ ds, c.isClosing = true)
    (hlen : ds.length = d) (hc : c.isClosing = true) :
    p.run body? (ds ++ [c]) = p.closeGroup body? opening (ds.reverse ++ inside) := by
  obtain ⟨alternatives, terms, phase⟩ := p
  obtain rfl : phase = .body opening d inside := hphase
  have ho : c.isOpening = false := Token.isOpening_of_isClosing hc
  rw [run_append_of_ok (run_body (unclosedAfter_closings hds hlen) _ _ _ _), run_cons]
  simp only [step, ho, hc, Bool.false_eq_true, if_false, if_true, run_nil]
  show (closeGroup body? ⟨alternatives, terms, _⟩ opening (ds.reverse ++ inside) >>= .ok) =
    closeGroup body? ⟨alternatives, terms, .body opening d inside⟩ opening (ds.reverse ++ inside)
  cases body? with
  | none => rfl
  | some body =>
    simp only [closeGroup]
    cases body (ds.reverse ++ inside).reverse with
    | error e => rfl
    | ok e =>
      simp only [ok_bind]
      split <;> rfl

variable {body?' : Option BodyReader} {cs : List Token}

/-- The end closes a group as the missing parentheses do: the last of them closes it, and the others
belong to what is inside. -/
theorem finish_permissive_of_body (hbody : Option.Rel SuppliesMissing body? body?')
    {opening : Token} {d : Nat} {inside : List Token} (hphase : p.phase = .body opening d inside)
    (hdepth : unclosedAfter 0 inside.reverse = some d)
    (hinside : NoOpeningAfterOperator inside.reverse) (hcs : ∀ c ∈ cs, c.isClosing = true)
    (hlen : cs.length = d + 1) :
    p.finish .permissive body? = p.run body?' cs >>= finish .strict body?' := by
  have hne : cs ≠ [] := by
    intro hnil
    rw [hnil] at hlen
    cases hlen
  obtain ⟨ds, c, rfl⟩ := (List.eq_nil_or_concat' cs).resolve_left hne
  have hds : ∀ c ∈ ds, c.isClosing = true := fun c hc => hcs c (List.mem_append_left _ hc)
  have hc : c.isClosing = true := hcs c (by simp)
  have hdsLength : ds.length = d := by
    rw [List.length_append, List.length_singleton] at hlen
    exact Nat.succ.inj hlen
  have hgroup : p.closeGroup body? opening inside =
      p.closeGroup body?' opening (ds.reverse ++ inside) := by
    cases hbody with
    | none => rfl
    | some hsupplies =>
      have hsame := hsupplies inside.reverse ds hinside hds
        (hdsLength.trans (leftOpen_of_unclosedAfter hdepth).symm)
      simp only [closeGroup, hsame, List.reverse_append, List.reverse_reverse]
  rw [run_closings hphase hds hdsLength hc, closeGroup_bind_finish, ← hgroup, finish, hphase]
  rfl

/-- If what is inside parentheses is read the same once the missing parentheses are put after it,
then so is the whole sequence. -/
theorem suppliesMissing_readSequence (hagree : AgreeOnBalanced body? body?')
    (hbody : Option.Rel SuppliesMissing body? body?') :
    SuppliesMissing (readSequence .permissive body?) (readSequence .strict body?') := by
  intro ts cs hts hcs hlen
  rw [readSequence_eq_run, readSequence_eq_run, run_append, ← run_start_congr hagree]
  cases hrun : start.run body? ts with
  | error e => rfl
  | ok p =>
    rw [ok_bind, ok_bind]
    rw [leftOpen_eq_unclosed hrun hts] at hlen
    by_cases hopen : p.unclosed = 0
    · -- nothing is missing, and nothing is open in the end
      obtain rfl : cs = [] := List.length_eq_zero_iff.1 (hlen.trans hopen)
      rw [run_nil, ok_bind]
      exact finish_congr (phase_ne_body_of_unclosed hopen)
    · obtain ⟨opening, d, inside, hphase⟩ := exists_phase_eq_body hopen
      obtain ⟨-, hdepth, us, rfl⟩ := (recalls_of_run hrun).body hphase
      have hinside : NoOpeningAfterOperator inside.reverse := by
        rw [List.append_cons] at hts
        exact hts.of_append_right
      rw [unclosed, hphase] at hlen
      exact finish_permissive_of_body hbody hphase hdepth hinside hcs hlen

end Progress

theorem suppliesMissing_readNested (levels : Nat) :
    SuppliesMissing (readNested .permissive levels) (readNested .strict levels) := by
  induction levels with
  | zero => exact Progress.suppliesMissing_readSequence .none .none
  | succ levels ih =>
    have hagree : AgreeOnBalanced (bodyReader? .permissive (levels + 1))
        (bodyReader? .strict (levels + 1)) :=
      agreeOnBalanced_bodyReader? .permissive .strict (levels + 1)
    exact Progress.suppliesMissing_readSequence hagree (.some ih)

/-- Tokens with no opening parenthesis directly after an operator are read permissively as they are
read strictly with as many closing parentheses after them as ordinary bracket matching leaves
open, wherever those are said to stand: to the same tree, or to the same error. -/
theorem parseTokens_permissive_eq_append {ts cs : List Token} (hts : NoOpeningAfterOperator ts)
    (hcs : ∀ c ∈ cs, c.isClosing = true) (hlen : cs.length = leftOpen 0 ts) :
    parseTokens .permissive ts = parseTokens .strict (ts ++ cs) :=
  suppliesMissing_readNested maxDepth ts cs hts hcs hlen

/-- With a closing parenthesis as a value and two opening ones left open, two are supplied. -/
theorem parseTokens_permissive_eq_append_two :
    parseTokens .permissive
        [.bare "a" 0, .bare "=" 2, .bare ")" 4, .bare "and" 6, .bare "(" 10, .bare "b" 11,
          .bare "=" 13, .bare "c" 15, .bare "or" 17, .bare "(" 20, .bare "(" 21, .bare "d" 22,
          .bare "~" 24, .bare "e" 26, .bare ")" 27, .bare "and" 29, .bare "f" 33, .bare "=" 35,
          .bare "g" 37] =
      .ok (.group .and [.condition ⟨"a", .equals, ")"⟩,
        .group .or [.condition ⟨"b", .equals, "c"⟩,
          .group .and [.condition ⟨"d", .contains, "e"⟩, .condition ⟨"f", .equals, "g"⟩]]]) := by
  have hcs : ∀ c ∈ [Token.bare ")" 7, Token.bare ")" 0], c.isClosing = true := by decide
  rw [parseTokens_permissive_eq_append (by decide) hcs (by decide)]
  decide +kernel

-- a value that is an opening parenthesis is counted as left open, and nothing is to be closed there
example :
    parseTokens .permissive [.bare "(" 0, .bare "a" 1, .bare "=" 3, .bare "(" 5] =
      .ok (.condition ⟨"a", .equals, "("⟩) ∧
    parseTokens .strict
        ([.bare "(" 0, .bare "a" 1, .bare "=" 3, .bare "(" 5] ++ [.bare ")" 6, .bare ")" 7]) =
      .error (.unexpectedCloseParen 6) := by
  decide +kernel

end RecordFilter
