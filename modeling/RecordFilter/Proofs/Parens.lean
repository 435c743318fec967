import RecordFilter.Token.Basic

/-!
# Bare parentheses

Groups are cut out of a sequence of tokens by counting its bare parentheses, wherever they stand.
`unclosedAfter` is that count as it runs; `Balanced` says the same of a finished piece without
running it: no prefix closes more than it opens, and in the end both are equal.

`firstNested limit n ts` is the place where the count goes beyond a limit: the offset of the first
opening parenthesis of `ts` that has `limit` unclosed ones before it, if `n` are unclosed before
`ts`.
-/

namespace RecordFilter

namespace Token

/-- Whether the token is a bare opening parenthesis. -/
abbrev isOpening (t : Token) : Bool :=
  t.isSymbol "("

/-- Whether the token is a bare closing parenthesis. -/
abbrev isClosing (t : Token) : Bool :=
  t.isSymbol ")"

theorem isClosing_of_isOpening {t : Token} (h : t.isOpening = true) : t.isClosing = false := by
  rw [isSymbol_iff] at h
  simp [isSymbol, h.2]

theorem isOpening_of_isClosing {t : Token} (h : t.isClosing = true) : t.isOpening = false := by
  rw [isSymbol_iff] at h
  simp [isSymbol, h.2]

/-- A token opens, or closes, or does neither. -/
theorem paren_cases (t : Token) :
    (t.isOpening = true ∧ t.isClosing = false) ∨ (t.isOpening = false ∧ t.isClosing = true) ∨
      (t.isOpening = false ∧ t.isClosing = false) := by
  cases ho : t.isOpening with
  | true => exact .inl ⟨rfl, isClosing_of_isOpening ho⟩
  | false => cases t.isClosing <;> simp

end Token

/-- How many bare opening parentheses there are. -/
def openings (ts : List Token) : Nat :=
  ts.countP Token.isOpening

/-- How many bare closing parentheses there are. -/
def closings (ts : List Token) : Nat :=
  ts.countP Token.isClosing

/-- Each bare parenthesis has its counterpart: no prefix closes more than it opens, and all that is
opened is closed. -/
def Balanced (ts : List Token) : Prop :=
  (∀ us, us <+: ts → closings us ≤ openings us) ∧ openings ts = closings ts

/-- How many parentheses are unclosed after `ts` if `n` are before it; none if one is closed that
is not open. -/
def unclosedAfter : (n : Nat) → List Token → Option Nat
  | n, [] => some n
  | n, t :: ts =>
    if t.isOpening then unclosedAfter (n + 1) ts
    else if t.isClosing then
      match n with
      | 0 => none
      | n + 1 => unclosedAfter n ts
    else unclosedAfter n ts

/-- The offset of the first opening parenthesis that has `limit` unclosed ones before it, if `n`
are unclosed before `ts`. -/
def firstNested (limit : Nat) : (n : Nat) → List Token → Option Nat
  | _, [] => none
  | n, t :: ts =>
    if t.isOpening then if n = limit then some t.offset else firstNested limit (n + 1) ts
    else if t.isClosing then firstNested limit (n - 1) ts
    else firstNested limit n ts

/-! ## The running count -/

section Steps

variable {t : Token} (n limit : Nat) (ts : List Token)

@[simp] theorem unclosedAfter_nil : unclosedAfter n [] = some n := rfl

theorem unclosedAfter_opening (h : t.isOpening = true) :
    unclosedAfter n (t :: ts) = unclosedAfter (n + 1) ts := by
  simp [unclosedAfter, h]

theorem unclosedAfter_closing_zero (h : t.isClosing = true) :
    unclosedAfter 0 (t :: ts) = none := by
  simp [unclosedAfter, h, Token.isOpening_of_isClosing h]

theorem unclosedAfter_closing_succ (h : t.isClosing = true) :
    unclosedAfter (n + 1) (t :: ts) = unclosedAfter n ts := by
  simp [unclosedAfter, h, Token.isOpening_of_isClosing h]

theorem unclosedAfter_other (ho : t.isOpening = false) (hc : t.isClosing = false) :
    unclosedAfter n (t :: ts) = unclosedAfter n ts := by
  simp [unclosedAfter, ho, hc]

@[simp] theorem firstNested_nil : firstNested limit n [] = none := rfl

theorem firstNested_opening (h : t.isOpening = true) :
    firstNested limit n (t :: ts) =
      if n = limit then some t.offset else firstNested limit (n + 1) ts := by
  simp [firstNested, h]

theorem firstNested_closing (h : t.isClosing = true) :
    firstNested limit n (t :: ts) = firstNested limit (n - 1) ts := by
  simp [firstNested, h, Token.isOpening_of_isClosing h]

theorem firstNested_other (ho : t.isOpening = false) (hc : t.isClosing = false) :
    firstNested limit n (t :: ts) = firstNested limit n ts := by
  simp [firstNested, ho, hc]

end Steps

theorem unclosedAfter_append (n : Nat) (xs ys : List Token) :
    unclosedAfter n (xs ++ ys) = (unclosedAfter n xs).bind (unclosedAfter · ys) := by
  induction xs generalizing n with
  | nil => rfl
  | cons t xs ih =>
    rw [List.cons_append]
    rcases t.paren_cases with ⟨ho, hc⟩ | ⟨ho, hc⟩ | ⟨ho, hc⟩
    · rw [unclosedAfter_opening _ _ ho, unclosedAfter_opening _ _ ho, ih]
    · cases n with
      | zero => rw [unclosedAfter_closing_zero _ hc, unclosedAfter_closing_zero _ hc]; rfl
      | succ n => rw [unclosedAfter_closing_succ _ _ hc, unclosedAfter_closing_succ _ _ hc, ih]
    · rw [unclosedAfter_other _ _ ho hc, unclosedAfter_other _ _ ho hc, ih]

/-- Induction over a piece that closes nothing but what is open. -/
@[elab_as_elim]
theorem unclosedAfter_induct {m : Nat}
    {motive : (n : Nat) → (ts : List Token) → unclosedAfter n ts = some m → Prop}
    (nil : motive m [] rfl)
    (opening : ∀ n t ts (ho : t.isOpening = true) (h : unclosedAfter (n + 1) ts = some m),
      motive (n + 1) ts h → motive n (t :: ts) (by rwa [unclosedAfter_opening _ _ ho]))
    (closing : ∀ n t ts (hc : t.isClosing = true) (h : unclosedAfter n ts = some m),
      motive n ts h → motive (n + 1) (t :: ts) (by rwa [unclosedAfter_closing_succ _ _ hc]))
    (other : ∀ n t ts (ho : t.isOpening = false) (hc : t.isClosing = false)
      (h : unclosedAfter n ts = some m),
      motive n ts h → motive n (t :: ts) (by rwa [unclosedAfter_other _ _ ho hc]))
    (n : Nat) (ts : List Token) (h : unclosedAfter n ts = some m) : motive n ts h := by
  induction ts generalizing n with
  | nil =>
    obtain rfl : n = m := by simpa using h
    exact nil
  | cons t ts ih =>
    rcases t.paren_cases with ⟨ho, hc⟩ | ⟨ho, hc⟩ | ⟨ho, hc⟩
    · have hrest : unclosedAfter (n + 1) ts = some m := by rwa [unclosedAfter_opening _ _ ho] at h
      exact opening n t ts ho hrest (ih (n + 1) hrest)
    · cases n with
      | zero => simp [unclosedAfter_closing_zero _ hc] at h
      | succ n =>
        have hrest : unclosedAfter n ts = some m := by
          rwa [unclosedAfter_closing_succ _ _ hc] at h
        exact closing n t ts hc hrest (ih n hrest)
    · have hrest : unclosedAfter n ts = some m := by rwa [unclosedAfter_other _ _ ho hc] at h
      exact other n t ts ho hc hrest (ih n hrest)

theorem forall_prefix_cons {P : List Token → Prop} {t : Token} {ts : List Token} :
    (∀ us, us <+: t :: ts → P us) ↔ P [] ∧ ∀ us, us <+: ts → P (t :: us) := by
  constructor
  · intro h
    exact ⟨h [] List.nil_prefix, fun us hus => h _ (List.cons_prefix_cons.2 ⟨rfl, hus⟩)⟩
  · rintro ⟨hnil, hcons⟩ us hus
    rcases List.prefix_cons_iff.1 hus with rfl | ⟨vs, rfl, hvs⟩
    · exact hnil
    · exact hcons vs hvs

theorem openings_cons (t : Token) (ts : List Token) :
    openings (t :: ts) = openings ts + if t.isOpening then 1 else 0 :=
  List.countP_cons

theorem closings_cons (t : Token) (ts : List Token) :
    closings (t :: ts) = closings ts + if t.isClosing then 1 else 0 :=
  List.countP_cons

/-- What the running count says of the prefixes and of the whole. -/
theorem unclosedAfter_eq_some_iff {n m : Nat} {ts : List Token} :
    unclosedAfter n ts = some m ↔
      (∀ us, us <+: ts → closings us ≤ n + openings us) ∧ n + openings ts = m + closings ts := by
  induction ts generalizing n with
  | nil => simp [openings, closings]
  | cons t ts ih =>
    rw [forall_prefix_cons, openings_cons, closings_cons]
    have hnil : closings ([] : List Token) ≤ n + openings [] := Nat.zero_le _
    rcases t.paren_cases with ⟨ho, hc⟩ | ⟨ho, hc⟩ | ⟨ho, hc⟩
    · have hstep (us : List Token) :
          closings (t :: us) ≤ n + openings (t :: us) ↔ closings us ≤ n + 1 + openings us := by
        simp only [openings_cons, closings_cons, ho, hc, Bool.false_eq_true, if_true, if_false]
        omega
      rw [unclosedAfter_opening _ _ ho, ih]
      simp only [hstep, hnil, ho, hc, true_and, Bool.false_eq_true, if_true, if_false]
      exact and_congr Iff.rfl (by omega)
    · cases n with
      | zero =>
        -- the closing parenthesis alone is a prefix that closes too much
        rw [unclosedAfter_closing_zero _ hc]
        simp only [reduceCtorEq, false_iff]
        rintro ⟨⟨-, hpre⟩, -⟩
        have hfirst := hpre [] List.nil_prefix
        simp [closings_cons, ho, hc, openings] at hfirst
      | succ n =>
        have hstep (us : List Token) :
            closings (t :: us) ≤ n + 1 + openings (t :: us) ↔ closings us ≤ n + openings us := by
          simp only [openings_cons, closings_cons, ho, hc, Bool.false_eq_true, if_true, if_false]
          omega
        rw [unclosedAfter_closing_succ _ _ hc, ih]
        simp only [hstep, hnil, ho, hc, true_and, Bool.false_eq_true, if_true, if_false]
        exact and_congr Iff.rfl (by omega)
    · rw [unclosedAfter_other _ _ ho hc, ih]
      simp [openings_cons, closings_cons, ho, hc, hnil]

theorem balanced_iff {ts : List Token} : Balanced ts ↔ unclosedAfter 0 ts = some 0 := by
  rw [unclosedAfter_eq_some_iff, Balanced]
  simp

/-- Parentheses that are open before are not touched by a balanced piece. -/
theorem unclosedAfter_add {n m k : Nat} {ts : List Token} (h : unclosedAfter n ts = some m) :
    unclosedAfter (n + k) ts = some (m + k) := by
  rw [unclosedAfter_eq_some_iff] at h ⊢
  obtain ⟨hpre, htot⟩ := h
  refine ⟨fun us hus => ?_, by omega⟩
  have := hpre us hus
  omega

theorem Balanced.unclosedAfter {ts : List Token} (h : Balanced ts) (n : Nat) :
    unclosedAfter n ts = some n := by
  simpa using unclosedAfter_add (k := n) (balanced_iff.1 h)

/-- A parenthesis that opens in a balanced piece is closed before the end of it. -/
theorem Balanced.unclosedAfter_eq_none {opening : Token} {xs ys : List Token}
    (h : Balanced (xs ++ opening :: ys)) (hopening : opening.isOpening = true) :
    RecordFilter.unclosedAfter 0 ys = none := by
  -- what is open before the parenthesis is open in the end, and so would be the parenthesis
  rw [balanced_iff, unclosedAfter_append] at h
  obtain ⟨n, -, hrest⟩ := Option.bind_eq_some_iff.1 h
  rw [unclosedAfter_opening _ _ hopening] at hrest
  cases hys : RecordFilter.unclosedAfter 0 ys with
  | none => rfl
  | some d =>
    have hopen := unclosedAfter_add (k := n + 1) hys
    rw [Nat.zero_add, hrest] at hopen
    cases hopen

@[simp] theorem balanced_nil : Balanced [] :=
  balanced_iff.2 rfl

theorem Balanced.append {xs ys : List Token} (hx : Balanced xs) (hy : Balanced ys) :
    Balanced (xs ++ ys) := by
  rw [balanced_iff, unclosedAfter_append, balanced_iff.1 hx]
  exact balanced_iff.1 hy

theorem Balanced.cons {t : Token} {ts : List Token} (ho : t.isOpening = false)
    (hc : t.isClosing = false) (h : Balanced ts) : Balanced (t :: ts) := by
  rw [balanced_iff, unclosedAfter_other _ _ ho hc]
  exact balanced_iff.1 h

theorem Balanced.group {opening closing : Token} {inside : List Token}
    (ho : opening.isOpening = true) (hc : closing.isClosing = true) (h : Balanced inside) :
    Balanced (opening :: (inside ++ [closing])) := by
  rw [balanced_iff, unclosedAfter_opening _ _ ho, unclosedAfter_append, h.unclosedAfter]
  exact unclosedAfter_closing_succ 0 [] hc

/-! ## The first parenthesis at a depth -/

theorem firstNested_append {n m : Nat} {xs : List Token} (limit : Nat)
    (h : unclosedAfter n xs = some m) (ys : List Token) :
    firstNested limit n (xs ++ ys) = (firstNested limit n xs).or (firstNested limit m ys) := by
  induction n, xs, h using unclosedAfter_induct with
  | nil => rfl
  | opening n t xs ho h ih =>
    rw [List.cons_append, firstNested_opening _ _ _ ho, firstNested_opening _ _ _ ho]
    split
    · rfl
    · exact ih
  | closing n t xs hc h ih =>
    rw [List.cons_append, firstNested_closing _ _ _ hc, firstNested_closing _ _ _ hc]
    exact ih
  | other n t xs ho hc h ih =>
    rw [List.cons_append, firstNested_other _ _ _ ho hc, firstNested_other _ _ _ ho hc]
    exact ih

theorem Balanced.firstNested_append {xs : List Token} (h : Balanced xs) (limit : Nat)
    (ys : List Token) :
    firstNested limit 0 (xs ++ ys) = (firstNested limit 0 xs).or (firstNested limit 0 ys) :=
  RecordFilter.firstNested_append limit (balanced_iff.1 h) ys

/-- One more open parenthesis around, and one more allowed. -/
theorem firstNested_succ {n m : Nat} {ts : List Token} (limit : Nat)
    (h : unclosedAfter n ts = some m) :
    firstNested (limit + 1) (n + 1) ts = firstNested limit n ts := by
  induction n, ts, h using unclosedAfter_induct with
  | nil => rfl
  | opening n t ts ho h ih =>
    rw [firstNested_opening _ _ _ ho, firstNested_opening _ _ _ ho, ih]
    simp
  | closing n t ts hc h ih =>
    rw [firstNested_closing _ _ _ hc, firstNested_closing _ _ _ hc]
    exact ih
  | other n t ts ho hc h ih =>
    rw [firstNested_other _ _ _ ho hc, firstNested_other _ _ _ ho hc]
    exact ih

/-- Parentheses that nest too deep inside others are those that nest too deep by one less. -/
theorem Balanced.firstNested_group {opening closing : Token} {inside : List Token}
    (ho : opening.isOpening = true) (hc : closing.isClosing = true) (h : Balanced inside)
    (limit : Nat) :
    firstNested (limit + 1) 0 (opening :: (inside ++ [closing])) = firstNested limit 0 inside := by
  rw [firstNested_opening _ _ _ ho, if_neg (Nat.succ_ne_zero limit).symm,
    RecordFilter.firstNested_append _ (h.unclosedAfter 1), firstNested_closing _ _ _ hc,
    firstNested_nil, Option.or_none]
  exact firstNested_succ limit (balanced_iff.1 h)

end RecordFilter
