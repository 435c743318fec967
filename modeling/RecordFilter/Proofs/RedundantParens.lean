import Mathlib.Control.Monad.Basic
import Mathlib.Data.List.Infix
import RecordFilter.Proofs.NestingLimit

/-!
# Parentheses around a filter

Parentheses around all of a filter change nothing about it but how deep it nests
(`parseTokens_enclosed`): the tree is the same as long as no more than `maxDepth` parentheses are
open at once, and else the first parenthesis that is one too many is refused.

Around a sequence that derives a tree, a pair of parentheses derives the same tree, with one level
more (`InParens.derives`). With levels enough that holds of any number of pairs, and what fewer
levels make of it is the matter of `Grammar.Derives.readNested_eq`. It remains to say which
parenthesis is refused (`exists_isFirstNested`) and when one is
(`firstNested_eq_none_iff_mostOpen_le`).
-/

namespace RecordFilter

/-- The most bare parentheses of the tokens that are open at once. -/
def mostOpen (ts : List Token) : Nat :=
  (ts.inits.map fun us => openings us - closings us).foldr max 0

/-- The token is the first bare opening parenthesis that has `limit` unclosed ones before it. -/
def IsFirstNested (limit : Nat) (ts : List Token) (t : Token) : Prop :=
  ∃ before after, ts = before ++ t :: after ∧ t.isOpening = true ∧
    openings before = closings before + limit ∧
    ∀ us u, us ++ [u] <+: before → u.isOpening = true → openings us ≠ closings us + limit

/-- Nowhere more than `limit` of the bare parentheses are open at once, if `n` are open before. -/
def StaysBelow (limit n : Nat) (ts : List Token) : Prop :=
  ∀ us, us <+: ts → n + openings us ≤ closings us + limit

/-- The tokens `us` are `ts` in `k` pairs of bare parentheses. -/
inductive InParens (ts : List Token) : (k : Nat) → (us : List Token) → Prop
  | zero : InParens ts 0 ts
  | succ {k : Nat} {us : List Token} {opening closing : Token} (h : InParens ts k us)
    (hopening : opening.isOpening = true) (hclosing : closing.isClosing = true) :
    InParens ts (k + 1) (opening :: (us ++ [closing]))

/-! ## How many parentheses are open -/

section Counts

variable {n m limit : Nat} {ts : List Token} {t : Token}

theorem foldr_max_le_iff {ns : List Nat} : ns.foldr max 0 ≤ n ↔ ∀ m ∈ ns, m ≤ n := by
  induction ns with
  | nil => simp
  | cons m ns ih => rw [List.foldr_cons, Nat.max_le, ih, List.forall_mem_cons]

theorem mostOpen_le_iff : mostOpen ts ≤ n ↔ NestsAtMost n ts := by
  rw [mostOpen, foldr_max_le_iff, List.forall_mem_map]
  constructor
  · intro h us hus
    have hle := h us ((List.mem_inits us ts).2 hus)
    omega
  · intro h us hus
    have hle := h us ((List.mem_inits us ts).1 hus)
    omega

theorem staysBelow_zero : StaysBelow limit 0 ts ↔ NestsAtMost limit ts := by
  simp only [StaysBelow, NestsAtMost, Nat.zero_add]

theorem StaysBelow.le (h : StaysBelow limit n ts) : n ≤ limit := by
  have hnil := h [] List.nil_prefix
  simpa [openings, closings] using hnil

theorem staysBelow_nil : StaysBelow limit n [] ↔ n ≤ limit := by
  constructor
  · intro h
    exact h.le
  · intro h us hus
    rw [List.prefix_nil.1 hus]
    simpa [openings, closings] using h

/-- Where one token is put before, `n'` are open after it. -/
theorem staysBelow_cons {n' : Nat} (h : n + openings [t] = n' + closings [t]) :
    StaysBelow limit n (t :: ts) ↔ n ≤ limit ∧ StaysBelow limit n' ts := by
  have hstep (us : List Token) : n + openings (t :: us) ≤ closings (t :: us) + limit ↔
      n' + openings us ≤ closings us + limit := by
    rw [← List.singleton_append, openings_append, closings_append]
    omega
  rw [StaysBelow, forall_prefix_cons]
  simp only [hstep]
  simp [openings, closings, StaysBelow]

theorem staysBelow_opening (ho : t.isOpening = true) :
    StaysBelow limit n (t :: ts) ↔ n ≤ limit ∧ StaysBelow limit (n + 1) ts := by
  apply staysBelow_cons
  simp [openings, closings, ho, Token.isClosing_of_isOpening ho]

theorem staysBelow_closing (hc : t.isClosing = true) :
    StaysBelow limit (n + 1) (t :: ts) ↔ n + 1 ≤ limit ∧ StaysBelow limit n ts := by
  apply staysBelow_cons
  simp [openings, closings, hc, Token.isOpening_of_isClosing hc]

theorem staysBelow_other (ho : t.isOpening = false) (hc : t.isClosing = false) :
    StaysBelow limit n (t :: ts) ↔ n ≤ limit ∧ StaysBelow limit n ts := by
  apply staysBelow_cons
  simp [openings, closings, ho, hc]

/-- A parenthesis nests too deep unless no more than the limit are ever open. -/
theorem firstNested_eq_none_iff_staysBelow (h : unclosedAfter n ts = some m) (hn : n ≤ limit) :
    firstNested limit n ts = none ↔ StaysBelow limit n ts := by
  induction n, ts, h using unclosedAfter_induct with
  | nil => simpa [staysBelow_nil] using hn
  | opening n t ts ho h ih =>
    rw [firstNested_opening _ _ _ ho, staysBelow_opening ho]
    by_cases hlimit : n = limit
    · rw [if_pos hlimit]
      constructor
      · intro hnone
        cases hnone
      · rintro ⟨-, hbelow⟩
        have hle := hbelow.le
        omega
    · rw [if_neg hlimit, ih (by omega)]
      exact (and_iff_right hn).symm
  | closing n t ts hc h ih =>
    rw [firstNested_closing _ _ _ hc, staysBelow_closing hc, Nat.add_sub_cancel, ih (by omega)]
    exact (and_iff_right hn).symm
  | other n t ts ho hc h ih =>
    rw [firstNested_other _ _ _ ho hc, staysBelow_other ho hc, ih hn]
    exact (and_iff_right hn).symm

/-- Before the first parenthesis that nests too deep, none does. -/
theorem exists_of_firstNested {offset : Nat} (h : unclosedAfter n ts = some m) (hn : n ≤ limit)
    (hfirst : firstNested limit n ts = some offset) :
    ∃ before t after, ts = before ++ t :: after ∧ t.isOpening = true ∧ t.offset = offset ∧
      n + openings before = closings before + limit ∧ StaysBelow limit n before := by
  induction n, ts, h using unclosedAfter_induct with
  | nil => cases hfirst
  | opening n t ts ho h ih =>
    rw [firstNested_opening _ _ _ ho] at hfirst
    by_cases hlimit : n = limit
    · rw [if_pos hlimit] at hfirst
      cases hfirst
      exact ⟨[], t, ts, rfl, ho, rfl, by simpa [openings, closings] using hlimit,
        staysBelow_nil.2 hn⟩
    · rw [if_neg hlimit] at hfirst
      obtain ⟨before, u, after, rfl, hu, hoffset, hcount, hbelow⟩ := ih (by omega) hfirst
      refine ⟨t :: before, u, after, rfl, hu, hoffset, ?_,
        (staysBelow_opening ho).2 ⟨hn, hbelow⟩⟩
      rw [openings_cons, closings_cons, if_pos ho,
        if_neg (by simp [Token.isClosing_of_isOpening ho])]
      omega
  | closing n t ts hc h ih =>
    rw [firstNested_closing _ _ _ hc, Nat.add_sub_cancel] at hfirst
    obtain ⟨before, u, after, rfl, hu, hoffset, hcount, hbelow⟩ := ih (by omega) hfirst
    refine ⟨t :: before, u, after, rfl, hu, hoffset, ?_, (staysBelow_closing hc).2 ⟨hn, hbelow⟩⟩
    rw [openings_cons, closings_cons, if_pos hc, if_neg (by simp [Token.isOpening_of_isClosing hc])]
    omega
  | other n t ts ho hc h ih =>
    rw [firstNested_other _ _ _ ho hc] at hfirst
    obtain ⟨before, u, after, rfl, hu, hoffset, hcount, hbelow⟩ := ih hn hfirst
    refine ⟨t :: before, u, after, rfl, hu, hoffset, ?_, (staysBelow_other ho hc).2 ⟨hn, hbelow⟩⟩
    rw [openings_cons, closings_cons, if_neg (by simp [ho]), if_neg (by simp [hc])]
    exact hcount

theorem exists_isFirstNested {offset : Nat} (hts : Balanced ts)
    (h : firstNested limit 0 ts = some offset) :
    ∃ t, IsFirstNested limit ts t ∧ t.offset = offset := by
  obtain ⟨before, t, after, rfl, ht, hoffset, hcount, hbelow⟩ :=
    exists_of_firstNested (balanced_iff.1 hts) (Nat.zero_le limit) h
  refine ⟨t, ⟨before, after, rfl, ht, by omega, ?_⟩, hoffset⟩
  intro us u hus hu
  -- with `u` one more would be open than may be
  have hle := hbelow (us ++ [u]) hus
  have hopen : openings (us ++ [u]) = openings us + 1 := by simp [openings, hu]
  have hclosed : closings (us ++ [u]) = closings us := by
    simp [closings, Token.isClosing_of_isOpening hu]
  omega

theorem firstNested_eq_none_iff_mostOpen_le (hts : Balanced ts) :
    firstNested limit 0 ts = none ↔ mostOpen ts ≤ limit := by
  rw [firstNested_eq_none_iff_staysBelow (balanced_iff.1 hts) (Nat.zero_le limit),
    staysBelow_zero, mostOpen_le_iff]

end Counts

/-! ## Pairs of parentheses -/

theorem Token.operator?_of_isOpening {t : Token} (h : t.isOpening = true) :
    t.operator?.isSome = false := by
  refine Bool.eq_false_iff.2 fun hsome => ?_
  obtain ⟨o, ho⟩ := Option.isSome_iff_exists.1 hsome
  rw [Token.isOpening_of_isOperator (Token.operator?_eq_some_iff.1 ho)] at h
  cases h

namespace InParens

variable {k : Nat} {ts us : List Token} {e : Expr}

/-- Parentheses on both sides, as many on the one as on the other, are pairs. -/
theorem of_append {opens closes : List Token} (hopens : ∀ t ∈ opens, t.isOpening = true)
    (hcloses : ∀ t ∈ closes, t.isClosing = true) (hlen : opens.length = closes.length) :
    InParens ts opens.length (opens ++ ts ++ closes) := by
  induction opens generalizing closes with
  | nil =>
    obtain rfl : closes = [] := List.length_eq_zero_iff.1 hlen.symm
    rw [List.nil_append, List.append_nil]
    exact .zero
  | cons opening opens ih =>
    obtain ⟨hopening, hopens⟩ := List.forall_mem_cons.1 hopens
    rcases List.eq_nil_or_concat' closes with rfl | ⟨closes, closing, rfl⟩
    · cases hlen
    · have hclosing : closing.isClosing = true := hcloses closing (by simp)
      have hinner : InParens ts opens.length (opens ++ ts ++ closes) := by
        refine ih hopens (fun t ht => hcloses t (List.mem_append_left _ ht)) ?_
        simpa using hlen
      have houter := hinner.succ hopening hclosing
      simpa only [List.cons_append, List.append_assoc, List.length_cons] using houter

theorem balanced (h : InParens ts k us) (hts : Balanced ts) : Balanced us := by
  induction h with
  | zero => exact hts
  | succ _ hopening hclosing ih => exact ih.group hopening hclosing

/-- Each pair is open around all that it encloses. -/
theorem mostOpen_eq (h : InParens ts k us) (hts : Balanced ts) :
    mostOpen us = k + mostOpen ts := by
  induction h with
  | zero => rw [Nat.zero_add]
  | @succ k us opening closing h hopening hclosing ih =>
    have hus : Balanced us := h.balanced hts
    have hpair : ∀ n, mostOpen (opening :: (us ++ [closing])) ≤ n ↔ mostOpen us + 1 ≤ n := by
      intro n
      rw [← firstNested_eq_none_iff_mostOpen_le (hus.group hopening hclosing)]
      cases n with
      | zero => simp [firstNested_opening _ _ _ hopening]
      | succ n =>
        rw [hus.firstNested_group hopening hclosing, firstNested_eq_none_iff_mostOpen_le hus,
          Nat.add_le_add_iff_right]
    have heq : mostOpen (opening :: (us ++ [closing])) = mostOpen us + 1 :=
      Nat.le_antisymm ((hpair _).2 (Nat.le_refl _)) ((hpair _).1 (Nat.le_refl _))
    rw [heq, ih]
    omega

theorem noOpeningAfterOperator (h : InParens ts k us) (hts : NoOpeningAfterOperator ts) :
    NoOpeningAfterOperator us := by
  induction h with
  | zero => exact hts
  | @succ k us opening closing _ hopening hclosing ih =>
    have hlast : NoOpeningAfterOperator (us ++ [closing]) := by
      refine List.isChain_append.2 ⟨ih, List.isChain_singleton _, ?_⟩
      intro t _ u hu _
      obtain rfl : closing = u := by simpa using hu
      exact Token.isOpening_of_isClosing hclosing
    refine List.isChain_cons.2 ⟨?_, hlast⟩
    intro u _ hsome
    rw [Token.operator?_of_isOpening hopening] at hsome
    cases hsome

/-- Where a sequence derives a tree that restricts something, so does the sequence in parentheses,
with one level more for each pair. -/
theorem derives (h : InParens ts k us) (hts : Balanced ts) {levels : Nat}
    (he : Grammar.Derives levels ts e) (hv : e.isVacuous = false) :
    Grammar.Derives (levels + k) us e := by
  induction h with
  | zero => exact he
  | @succ k us opening closing h hopening hclosing ih =>
    have hterm : Grammar.Term (Grammar.Derives (levels + k)) (opening :: (us ++ [closing])) e :=
      .group hopening (h.balanced hts) hclosing ih hv
    have hconjunction := Grammar.Conjunction.term hterm (Token.opensTerm_of_isOpening hopening)
    exact (Grammar.Alternatives.conjunction hconjunction).sequence

/-- Tokens in parentheses are read as they are without, unless that makes a parenthesis nest too
deep. -/
theorem parseTokens_eq (h : InParens ts k us) (hts : Balanced ts)
    (hvalues : NoOpeningAfterOperator ts) (he : parseTokens .strict ts = .ok e)
    (hv : e.isVacuous = false) : parseTokens .strict us = orTooDeep maxDepth us e := by
  have hderives : Grammar.Derives maxDepth ts e := (readNested_eq_ok_iff maxDepth ts e).1 he
  exact (h.derives hts hderives hv).readNested_eq (h.noOpeningAfterOperator hvalues)
    .strict maxDepth

end InParens

/-- A filter that restricts something may be put in any number of parentheses, if its own are
balanced and none of them is a value: it stands for the same tree then, as long as no more than
`maxDepth` parentheses are open at once, and is refused else, at the first parenthesis that has
`maxDepth` unclosed ones before it. -/
theorem parseTokens_enclosed {ts opens closes : List Token} {e : Expr} {k : Nat}
    (h : parseTokens .strict ts = .ok e) (hv : e.isVacuous = false) (hts : Balanced ts)
    (hvalues : NoOpeningAfterOperator ts) (hopens : ∀ t ∈ opens, t.isOpening = true)
    (hcloses : ∀ t ∈ closes, t.isClosing = true) (hk : opens.length = k)
    (hk' : closes.length = k) :
    (k + mostOpen ts ≤ maxDepth → parseTokens .strict (opens ++ ts ++ closes) = .ok e) ∧
    (maxDepth < k + mostOpen ts →
      ∃ t, IsFirstNested maxDepth (opens ++ ts ++ closes) t ∧
        parseTokens .strict (opens ++ ts ++ closes) = .error (.tooDeep t.offset)) := by
  have hparens : InParens ts opens.length (opens ++ ts ++ closes) :=
    .of_append hopens hcloses (hk.trans hk'.symm)
  rw [hk] at hparens
  have hbalanced : Balanced (opens ++ ts ++ closes) := hparens.balanced hts
  rw [hparens.parseTokens_eq hts hvalues h hv, orTooDeep, ← hparens.mostOpen_eq hts]
  constructor
  · intro hle
    rw [(firstNested_eq_none_iff_mostOpen_le hbalanced).2 hle]
  · intro hlt
    have hsome : firstNested maxDepth 0 (opens ++ ts ++ closes) ≠ none := by
      intro hnone
      have hle := (firstNested_eq_none_iff_mostOpen_le hbalanced).1 hnone
      omega
    obtain ⟨offset, hoffset⟩ := Option.ne_none_iff_exists'.1 hsome
    obtain ⟨t, ht, rfl⟩ := exists_isFirstNested hbalanced hoffset
    refine ⟨t, ht, ?_⟩
    rw [hoffset]

/-- Sixty-three pairs fit around a filter with one pair of its own, one more does not. -/
theorem parseTokens_enclosed_sixtyFour :
    let ts : List Token := [.bare "(" 1, .bare "a" 2, .bare "=" 4, .quoted "(" '\'' 6, .bare ")" 9]
    let enclosed (k : Nat) : List Token :=
      List.replicate k (Token.bare "(" 0) ++ ts ++ List.replicate k (Token.bare ")" 10)
    parseTokens .strict (enclosed 63) = .ok (.condition ⟨"a", .equals, "("⟩) ∧
    ∃ t, IsFirstNested maxDepth (enclosed 64) t ∧
      parseTokens .strict (enclosed 64) = .error (.tooDeep t.offset) := by
  intro ts enclosed
  have hread : parseTokens .strict ts = .ok (.condition ⟨"a", .equals, "("⟩) := by
    decide +kernel
  have hbalanced : Balanced ts := balanced_iff.2 rfl
  have hvalues : NoOpeningAfterOperator ts := by decide
  have hopens (k : Nat) : ∀ t ∈ List.replicate k (Token.bare "(" 0), t.isOpening = true := by
    intro t ht
    rw [List.eq_of_mem_replicate ht]
    rfl
  have hcloses (k : Nat) : ∀ t ∈ List.replicate k (Token.bare ")" 10), t.isClosing = true := by
    intro t ht
    rw [List.eq_of_mem_replicate ht]
    rfl
  have henclosed (k : Nat) := parseTokens_enclosed hread rfl hbalanced hvalues (hopens k)
    (hcloses k) List.length_replicate List.length_replicate
  have hmost : mostOpen ts = 1 := by decide
  exact ⟨(henclosed 63).1 (by rw [hmost]; decide), (henclosed 64).2 (by rw [hmost]; decide)⟩

end RecordFilter
