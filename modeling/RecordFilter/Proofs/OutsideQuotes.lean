import RecordFilter.Proofs.Parens
import RecordFilter.Proofs.ScanRun

/-!
# Parentheses outside quotes

`parensOutsideQuotes` finds the parentheses of a text that stand outside quotes, without cutting the
text into tokens: all it keeps track of is the quote that is open. The bare parentheses among the
tokens of a text are exactly these, at the same offsets (`filter_isParen_of_tokenize`), so what is
counted on the tokens is counted on the text.
-/

namespace RecordFilter

/-- The parentheses outside quotes, each with its index, of a text that begins at `offset`, inside
`quote?` if there is one. -/
def parensOutsideQuotes : (quote? : Option Char) → (offset : Nat) → List Char → List Token
  | _, _, [] => []
  | some q, offset, c :: cs =>
    parensOutsideQuotes (if c = q then none else some q) (offset + 1) cs
  | none, offset, c :: cs =>
    if isQuote c then parensOutsideQuotes (some c) (offset + 1) cs
    else if isParen c then Scan.paren c offset :: parensOutsideQuotes none (offset + 1) cs
    else parensOutsideQuotes none (offset + 1) cs

/-- The index of the first opening parenthesis outside quotes that has `limit` unclosed ones
outside quotes before it. -/
def firstNestedInText (limit : Nat) (text : String) : Option Nat :=
  firstNested limit 0 (parensOutsideQuotes none 0 text.toList)

example : firstNestedInText 1 "(a = '(' or (b = 1))" = some 12 := by decide +kernel

/-- Whether the token is a bare parenthesis. -/
def Token.isParen (t : Token) : Bool :=
  t.isOpening || t.isClosing

/-- Only parentheses matter to the depth of parentheses. -/
theorem firstNested_filter (limit n : Nat) (ts : List Token) :
    firstNested limit n (ts.filter Token.isParen) = firstNested limit n ts := by
  induction ts generalizing n with
  | nil => rfl
  | cons t ts ih =>
    rcases t.paren_cases with ⟨ho, hc⟩ | ⟨ho, hc⟩ | ⟨ho, hc⟩
    · rw [List.filter_cons_of_pos (by simp [Token.isParen, ho]), firstNested_opening _ _ _ ho,
        firstNested_opening _ _ _ ho, ih]
    · rw [List.filter_cons_of_pos (by simp [Token.isParen, hc]), firstNested_closing _ _ _ hc,
        firstNested_closing _ _ _ hc, ih]
    · rw [List.filter_cons_of_neg (by simp [Token.isParen, ho, hc]),
        firstNested_other _ _ _ ho hc, ih]

namespace Scan

/-- The quote that the scan is inside. -/
def quote? (s : Scan) : Option Char :=
  match s.current with
  | .quoted q _ _ => some q
  | _ => none

/-- The bare token that the scan is in the middle of has no parenthesis. -/
def IsParenFree (s : Scan) : Prop :=
  ∀ start read, s.current = .bare start read → ∀ c ∈ read, isParen c = false

theorem isParenFree_none (o : Nat) (found : List Token) : IsParenFree ⟨o, found, .none⟩ := by
  intro start read h
  cases h

theorem isParenFree_quoted (o : Nat) (found : List Token) (q : Char) (start : Nat)
    (read : List Char) : IsParenFree ⟨o, found, .quoted q start read⟩ := by
  intro start read h
  cases h

theorem isParen_textOf {read : List Char} (h : ∀ c ∈ read, isParen c = false) (start : Nat) :
    (Token.bare (textOf read) start).isParen = false := by
  have hne (c : Char) (hc : isParen c = true) : textOf read ≠ String.ofList [c] := by
    intro heq
    have hread : read.reverse = [c] := String.ofList_injective heq
    have hmem : c ∈ read := by
      rw [← List.mem_reverse, hread]
      exact List.mem_singleton_self c
    simp [h c hmem] at hc
  have ho : textOf read ≠ "(" := hne '(' rfl
  have hc : textOf read ≠ ")" := hne ')' rfl
  simp [Token.isParen, Token.isSymbol, Token.bare, Token.isQuoted, ho, hc]

theorem isParen_paren {c : Char} (h : isParen c = true) (offset : Nat) :
    (paren c offset).isParen = true := by
  simp only [RecordFilter.isParen, Bool.or_eq_true, beq_iff_eq] at h
  rcases h with rfl | rfl <;> rfl

/-- One step moves a parenthesis outside quotes from what is to be found to what is found. -/
theorem step_parens {s t : Scan} {c : Char} (hs : s.IsParenFree) (h : s.step c = .ok t)
    (cs : List Char) :
    t.IsParenFree ∧
      t.found.reverse.filter Token.isParen ++ parensOutsideQuotes t.quote? t.offset cs =
        s.found.reverse.filter Token.isParen ++
          parensOutsideQuotes s.quote? s.offset (c :: cs) := by
  obtain ⟨o, found, _ | ⟨start, read⟩ | ⟨q, start, read⟩⟩ := s
  · -- between tokens, a parenthesis is a token at once
    rcases char_cases c with ⟨hsep, hq, hp⟩ | ⟨hsep, hq⟩ | ⟨hsep, hq, hp⟩ | ⟨hsep, hq, hp⟩
    · simp only [step, hsep, if_true] at h
      cases h
      exact ⟨hs, by simp [parensOutsideQuotes, quote?, hq, hp]⟩
    · simp only [step, hsep, hq, Bool.false_eq_true, if_false, if_true] at h
      cases h
      exact ⟨isParenFree_quoted _ _ _ _ _, by simp [parensOutsideQuotes, quote?, hq]⟩
    · simp only [step, hsep, hq, hp, Bool.false_eq_true, if_false, if_true] at h
      cases h
      refine ⟨hs, ?_⟩
      simp [parensOutsideQuotes, quote?, hq, hp, isParen_paren hp]
    · simp only [step, hsep, hq, hp, Bool.false_eq_true, if_false] at h
      cases h
      refine ⟨?_, by simp [parensOutsideQuotes, quote?, hq, hp]⟩
      rintro _ _ ⟨⟩ d hd
      rwa [List.mem_singleton.1 hd]
  · -- a bare token, when it is finished, is no parenthesis
    have hbare := isParen_textOf (hs start read rfl) start
    rcases char_cases c with ⟨hsep, hq, hp⟩ | ⟨hsep, hq⟩ | ⟨hsep, hq, hp⟩ | ⟨hsep, hq, hp⟩
    · simp only [step, hsep, if_true] at h
      cases h
      refine ⟨isParenFree_none _ _, ?_⟩
      simp [parensOutsideQuotes, quote?, hq, hp, hbare]
    · simp only [step, hsep, hq, Bool.false_eq_true, if_false, if_true] at h
      cases h
    · simp only [step, hsep, hq, hp, Bool.false_eq_true, if_false, if_true] at h
      cases h
      refine ⟨isParenFree_none _ _, ?_⟩
      simp [parensOutsideQuotes, quote?, hq, hp, hbare, isParen_paren hp]
    · simp only [step, hsep, hq, hp, Bool.false_eq_true, if_false] at h
      cases h
      refine ⟨?_, by simp [parensOutsideQuotes, quote?, hq, hp]⟩
      rintro _ _ ⟨⟩ d hd
      rcases List.mem_cons.1 hd with rfl | hd
      · exact hp
      · exact hs start read rfl d hd
  · -- inside quotes, only the quote that ends them counts
    simp only [step] at h
    split at h
    next hend =>
      cases h
      refine ⟨isParenFree_none _ _, ?_⟩
      simp [parensOutsideQuotes, quote?, hend, Token.isParen, Token.isSymbol, Token.isQuoted,
        Token.quoted]
    next hend =>
      cases h
      exact ⟨isParenFree_quoted _ _ _ _ _, by simp [parensOutsideQuotes, quote?, hend]⟩

/-- What the scan has found and what it will find are the parentheses outside quotes. -/
theorem filter_isParen_of_complete {s : Scan} {cs : List Char} {ts : List Token}
    (hs : s.IsParenFree) (h : s.complete cs = .ok ts) :
    ts.filter Token.isParen =
      s.found.reverse.filter Token.isParen ++ parensOutsideQuotes s.quote? s.offset cs := by
  induction cs generalizing s with
  | nil =>
    obtain ⟨o, found, _ | ⟨start, read⟩ | ⟨q, start, read⟩⟩ := s
    · cases h
      simp [parensOutsideQuotes]
    · cases h
      have hbare := isParen_textOf (hs start read rfl) start
      simp [parensOutsideQuotes, hbare]
    · cases h
  | cons c cs ih =>
    rw [complete_cons] at h
    obtain ⟨t, hstep, hrest⟩ := bind_eq_ok_iff.1 h
    obtain ⟨ht, hparens⟩ := step_parens hs hstep cs
    rw [ih ht hrest, hparens]

end Scan

theorem filter_isParen_of_tokenize {text : String} {ts : List Token}
    (h : tokenize text = .ok ts) :
    ts.filter Token.isParen = parensOutsideQuotes none 0 text.toList := by
  exact Scan.filter_isParen_of_complete (Scan.isParenFree_none 0 []) h

theorem firstNested_of_tokenize {text : String} {ts : List Token} (h : tokenize text = .ok ts)
    (limit : Nat) : firstNested limit 0 ts = firstNestedInText limit text := by
  rw [firstNestedInText, ← filter_isParen_of_tokenize h, firstNested_filter]

end RecordFilter
