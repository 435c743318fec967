import Mathlib.Data.List.Basic
import RecordFilter.Proofs.ScanRun

/-!
# Texts side by side

A scan that has come some way into a text goes on as a scan does that begins there, its tokens and
its errors moved to the right by what has been read (`Scan.complete_moved`). A text that has been
read to its end, with a separator or a parenthesis next, is such a place (`Scan.settle_eq_moved`).
So two texts, one directly after the other, have the tokens of the first and then the tokens of the
second, these moved to the right by the length of the first (`tokenize_append`), and what is wrong
with the second is wrong with both, so much further to the right. The seam has to be at a separator
or a parenthesis: otherwise a bare token before it may go on after it, or be followed by a quote.

Where a separator is put between two texts, the seam is always such a one
(`tokenize_append_separator`): a separator ends a bare token as the end of the text does.
-/

namespace RecordFilter

/-- The token with `n` characters more before it. -/
def Token.shift (n : Nat) (t : Token) : Token :=
  { t with offset := n + t.offset }

/-- The error with `n` characters more before it. -/
def LexError.shift (n : Nat) : LexError → LexError
  | .unexpectedQuote quote offset => .unexpectedQuote quote (n + offset)
  | .incompleteToken text offset => .incompleteToken text (n + offset)

/-- The token in the middle of a scan with `n` characters more before it. -/
def OpenToken.shift (n : Nat) : OpenToken → OpenToken
  | .none => .none
  | .bare start read => .bare (n + start) read
  | .quoted quote start read => .quoted quote (n + start) read

/-- What is read of a text with `n` characters more before it, which are read as the tokens
`before`. -/
def readAfter (n : Nat) (before : List Token) (outcome : Except LexError (List Token)) :
    Except LexError (List Token) :=
  (outcome.map fun ts => before ++ ts.map (Token.shift n)).mapError (LexError.shift n)

@[simp] theorem Token.shift_bare (n : Nat) (text : String) (offset : Nat) :
    (bare text offset).shift n = bare text (n + offset) := rfl

@[simp] theorem Token.shift_quoted (n : Nat) (text : String) (quote : Char) (offset : Nat) :
    (quoted text quote offset).shift n = quoted text quote (n + offset) := rfl

namespace Scan

/-- The scan with `n` characters more before it, which are read as the tokens `before`. -/
def moved (n : Nat) (before : List Token) (s : Scan) : Scan :=
  ⟨n + s.offset, s.found.map (Token.shift n) ++ before.reverse, s.current.shift n⟩

variable (n : Nat) (before : List Token)

@[simp] theorem shift_paren (c : Char) (offset : Nat) :
    (paren c offset).shift n = paren c (n + offset) := rfl

/-! ## Scans that begin further on -/

theorem step_moved (s : Scan) (c : Char) :
    (s.moved n before).step c =
      ((s.step c).map (moved n before)).mapError (LexError.shift n) := by
  -- where the step goes is for the open token and the character to say, not for the offset
  obtain ⟨o, found, current⟩ := s
  cases current with
  | none =>
    rcases char_cases c with ⟨hs, -, -⟩ | ⟨hs, hq⟩ | ⟨hs, hq, hp⟩ | ⟨hs, hq, hp⟩ <;>
      simp [*, step, moved, OpenToken.shift, Except.map, Nat.add_assoc]
  | bare start read =>
    rcases char_cases c with ⟨hs, -, -⟩ | ⟨hs, hq⟩ | ⟨hs, hq, hp⟩ | ⟨hs, hq, hp⟩ <;>
      simp [*, step, moved, OpenToken.shift, LexError.shift, Except.map, Nat.add_assoc]
  | quoted q start read =>
    by_cases hc : c = q <;>
      simp [hc, step, moved, OpenToken.shift, Except.map, Nat.add_assoc]

theorem run_moved (s : Scan) (cs : List Char) :
    (s.moved n before).run cs =
      ((s.run cs).map (moved n before)).mapError (LexError.shift n) := by
  induction cs generalizing s with
  | nil => rfl
  | cons c cs ih =>
    rw [run_cons, run_cons, step_moved]
    cases s.step c with
    | error e => rfl
    | ok t => exact ih t

theorem finish_moved (s : Scan) : (s.moved n before).finish = readAfter n before s.finish := by
  obtain ⟨o, found, current⟩ := s
  cases current with
  | none => simp [finish, moved, OpenToken.shift, readAfter, Except.map]
  | bare start read => simp [finish, moved, OpenToken.shift, readAfter, Except.map]
  | quoted q start read => rfl

/-- A scan with more before it reads the rest of a text as it would without, but further to the
right. -/
theorem complete_moved (s : Scan) (cs : List Char) :
    (s.moved n before).complete cs = readAfter n before (s.complete cs) := by
  rw [complete, complete, run_moved]
  cases s.run cs with
  | error e => rfl
  | ok t => exact finish_moved n before t

/-! ## Scans at the end of a text -/

/-- Every character that is read counts. -/
theorem offset_step {s t : Scan} {c : Char} (h : s.step c = .ok t) : t.offset = s.offset + 1 := by
  grind [step]

theorem offset_run {s u : Scan} {cs : List Char} (h : s.run cs = .ok u) :
    u.offset = s.offset + cs.length := by
  induction cs generalizing s with
  | nil =>
    cases h
    rfl
  | cons c cs ih =>
    obtain ⟨t, ht, hu⟩ := run_cons_eq_ok_iff.1 h
    rw [ih hu, offset_step ht, List.length_cons, Nat.add_assoc, Nat.add_comm 1]

/-- A scan that can end is, but for a bare token that may be unfinished, between the tokens with
which it would end. -/
theorem settle_eq_moved {u : Scan} {ts : List Token} (h : u.finish = .ok ts) :
    u.settle = start.moved u.offset ts := by
  obtain ⟨o, found, current⟩ := u
  cases current with
  | none =>
    obtain rfl : found.reverse = ts := by simpa [finish] using h
    simp [settle, moved, start, OpenToken.shift]
  | bare first read =>
    obtain rfl : (Token.bare (textOf read) first :: found).reverse = ts := by
      simpa [finish] using h
    simp [settle, moved, start, OpenToken.shift]
  | quoted q first read => cases h

/-- A separator or a parenthesis leaves no bare token unfinished. -/
theorem settle_of_step {s t : Scan} {c : Char} (hc : isBreak c = true) (h : s.step c = .ok t) :
    t.settle = t := by
  grind [step, settle, isBreak, isQuote_of_isBreak]

theorem settle_of_run {u : Scan} {cs : List Char} (hlast : cs.getLast?.all isBreak = true)
    (h : start.run cs = .ok u) : u.settle = u := by
  rcases List.eq_nil_or_concat' cs with rfl | ⟨front, c, rfl⟩
  · cases h
    rfl
  · obtain ⟨s, -, hlaststep⟩ := run_append_eq_ok_iff.1 h
    obtain ⟨t, ht, hnil⟩ := run_cons_eq_ok_iff.1 hlaststep
    cases hnil
    rw [List.getLast?_concat, Option.all_some] at hlast
    exact settle_of_step hlast ht

theorem complete_eq_ok_iff {s : Scan} {cs : List Char} {ts : List Token} :
    s.complete cs = .ok ts ↔ ∃ u, s.run cs = .ok u ∧ u.finish = .ok ts :=
  bind_eq_ok_iff

/-- A quote inside a bare token is refused when it is read, not at the end. -/
theorem run_of_unexpectedQuote {s : Scan} {cs : List Char} {q : Char} {offset : Nat}
    (h : s.complete cs = .error (.unexpectedQuote q offset)) :
    s.run cs = .error (.unexpectedQuote q offset) := by
  rw [complete] at h
  cases hrun : s.run cs with
  | error e =>
    rw [hrun, error_bind, Except.error.injEq] at h
    rw [h]
  | ok u =>
    rw [hrun, ok_bind] at h
    obtain ⟨o, found, _ | ⟨first, read⟩ | ⟨q', first, read⟩⟩ := u <;> cases h

end Scan

/-! ## Texts side by side -/

section Chars

variable {xs ys : List Char} {ts : List Token}

/-- What stands directly after a text is read as if it stood alone, if the seam is at a separator or
a parenthesis. -/
theorem tokenizeChars_append (hx : tokenizeChars xs = .ok ts)
    (hseam : xs.getLast?.all isBreak = true ∨ ys.head?.all isBreak = true) :
    tokenizeChars (xs ++ ys) = readAfter xs.length ts (tokenizeChars ys) := by
  obtain ⟨u, hu, hfinish⟩ := Scan.complete_eq_ok_iff.1 hx
  have hoffset : u.offset = xs.length := by
    rw [Scan.offset_run hu, Scan.start, Nat.zero_add]
  -- the bare token at the end of `xs`, if there is one, is over: it was before, or it is now
  have hsettle : u.settle.complete ys = u.complete ys := by
    rcases hseam with hlast | hhead
    · rw [Scan.settle_of_run hlast hu]
    · exact u.complete_settle ((Option.all_eq_true _ _).1 hhead)
  calc tokenizeChars (xs ++ ys)
    _ = u.complete ys := by
      rw [Scan.tokenizeChars_eq_complete, Scan.complete_append, hu, ok_bind]
    _ = (Scan.start.moved xs.length ts).complete ys := by
      rw [← hsettle, Scan.settle_eq_moved hfinish, hoffset]
    _ = readAfter xs.length ts (tokenizeChars ys) := Scan.complete_moved _ _ _ _

theorem tokenizeChars_separator {c : Char} (hc : isSeparator c = true) :
    tokenizeChars [c] = .ok [] := by
  rw [Scan.tokenizeChars_eq_complete, Scan.complete_cons, Scan.start, Scan.step, if_pos hc]
  rfl

/-- What stands after a text and a separator is read as if it stood alone. -/
theorem tokenizeChars_append_separator (hx : tokenizeChars xs = .ok ts) {c : Char}
    (hc : isSeparator c = true) :
    tokenizeChars (xs ++ [c] ++ ys) = readAfter (xs.length + 1) ts (tokenizeChars ys) := by
  have hbreak : isBreak c = true := by rw [isBreak, hc, Bool.true_or]
  have hseam : [c].head?.all isBreak = true := hbreak
  have hfront : tokenizeChars (xs ++ [c]) = .ok ts := by
    rw [tokenizeChars_append hx (.inr hseam), tokenizeChars_separator hc]
    exact congrArg Except.ok (List.append_nil ts)
  have hlast : (xs ++ [c]).getLast?.all isBreak = true := by
    rw [List.getLast?_concat, Option.all_some, hbreak]
  rw [tokenizeChars_append hfront (.inl hlast), List.length_append, List.length_singleton]

end Chars

/-- The tokens of two texts, one directly after the other, where the seam is at a separator or a
parenthesis. -/
theorem tokenize_append {x y : String} {ts us : List Token} (hx : tokenize x = .ok ts)
    (hy : tokenize y = .ok us)
    (hseam : x.toList.getLast?.all isBreak = true ∨ y.toList.head?.all isBreak = true) :
    tokenize (x ++ y) = .ok (ts ++ us.map (Token.shift x.length)) := by
  rw [tokenize] at hy
  rw [tokenize, String.toList_append, tokenizeChars_append hx hseam, hy]
  rfl

/-- The tokens of three texts, one directly after the other, where both ends of the one between are
a separator or a parenthesis. -/
theorem tokenize_append_append {x between y : String} {ts bs us : List Token}
    (hx : tokenize x = .ok ts) (hbetween : tokenize between = .ok bs) (hy : tokenize y = .ok us)
    (hne : between.toList ≠ []) (hhead : between.toList.head?.all isBreak = true)
    (hlast : between.toList.getLast?.all isBreak = true) :
    tokenize (x ++ between ++ y) =
      .ok (ts ++ bs.map (Token.shift x.length) ++
        us.map (Token.shift (x.length + between.length))) := by
  have hfront := tokenize_append hx hbetween (.inr hhead)
  have hseam : (x ++ between).toList.getLast?.all isBreak = true := by
    rwa [String.toList_append, List.getLast?_append_of_ne_nil _ hne]
  have hboth := tokenize_append hfront hy (.inl hseam)
  rwa [String.length_append] at hboth

/-- A text, a separator and another text are the tokens of the first and those of the second, so
much further to the right, or what is wrong with the second is wrong there. A text in which a quote
stands inside a bare token is refused for it, whatever comes after. -/
theorem tokenize_append_separator (x : String) :
    (∀ ts, tokenize x = .ok ts → ∀ c, isSeparator c = true → ∀ y,
      (∀ us, tokenize y = .ok us →
        tokenize (x ++ String.singleton c ++ y) =
          .ok (ts ++ us.map (Token.shift (x.length + 1)))) ∧
      ∀ e, tokenize y = .error e →
        tokenize (x ++ String.singleton c ++ y) = .error (e.shift (x.length + 1))) ∧
    ∀ q offset, tokenize x = .error (.unexpectedQuote q offset) →
      ∀ z, tokenize (x ++ z) = .error (.unexpectedQuote q offset) := by
  constructor
  · intro ts hx c hc y
    have hread : tokenize (x ++ String.singleton c ++ y) =
        readAfter (x.length + 1) ts (tokenize y) := by
      rw [tokenize, String.toList_append, String.toList_append, String.toList_singleton]
      exact tokenizeChars_append_separator hx hc
    constructor
    · intro us hy
      rw [hread, hy]
      rfl
    · intro e hy
      rw [hread, hy]
      rfl
  · intro q offset hx z
    have hrun := Scan.run_of_unexpectedQuote hx
    rw [tokenize, String.toList_append, Scan.tokenizeChars_eq_complete, Scan.complete_append, hrun]
    rfl

/-- A quoted token after a tab, a quote inside a bare token after a newline, and then whatever there
may be. -/
theorem tokenize_append_separator_quotes :
    tokenize "(a\t'' b" =
      .ok [.bare "(" 0, .bare "a" 1, .quoted "" '\'' 3, .bare "b" 6] ∧
    tokenize "(a\nb'" = .error (.unexpectedQuote '\'' 4) ∧
    tokenize "(a\nb''\"" = .error (.unexpectedQuote '\'' 4) := by
  have hx := (tokenize_append_separator "(a").1 _ rfl
  have htab := (hx '\t' rfl "'' b").1 _ rfl
  have hnewline := (hx '\n' rfl "b'").2 _ rfl
  exact ⟨htab, hnewline, (tokenize_append_separator _).2 _ _ hnewline "'\""⟩

end RecordFilter
