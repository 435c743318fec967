import RecordFilter.Proofs.Outcome
import RecordFilter.Token.Scan

/-!
# Runs of the scan

`Scan.run` is the scan of a piece of a text, `Scan.complete` the scan of all that is left of it. A
bare token is not finished by its last character but by what follows. `Scan.settle` finishes it
ahead of time, and `Scan.complete_settle` says that this changes nothing if what follows is a
separator, a parenthesis or the end of the text.
-/

namespace RecordFilter

/-- The characters that end a bare token. -/
def isBreak (c : Char) : Bool :=
  isSeparator c || isParen c

/-- The characters of bare tokens. -/
def isPlain (c : Char) : Bool :=
  !isSeparator c && !isQuote c && !isParen c

theorem isPlain_iff {c : Char} :
    isPlain c = true ↔ isSeparator c = false ∧ isQuote c = false ∧ isParen c = false := by
  simp [isPlain, and_assoc]

theorem isQuote_of_isBreak {c : Char} (h : isBreak c = true) : isQuote c = false := by
  simp only [isBreak, isSeparator, isParen, Bool.or_eq_true, beq_iff_eq] at h
  rcases h with ((rfl | rfl) | rfl) | rfl | rfl <;> decide

theorem isPlain_eq_false_of_isBreak {c : Char} (h : isBreak c = true) : isPlain c = false := by
  simp only [isBreak, Bool.or_eq_true] at h
  rcases h with h | h <;> simp [isPlain, h]

theorem isSeparator_of_isQuote {c : Char} (h : isQuote c = true) : isSeparator c = false := by
  simp only [isQuote, Bool.or_eq_true, beq_iff_eq] at h
  rcases h with rfl | rfl <;> decide

/-- A character separates tokens, or is a quote, or is a parenthesis, or is none of the three. -/
theorem char_cases (c : Char) :
    (isSeparator c = true ∧ isQuote c = false ∧ isParen c = false) ∨
      (isSeparator c = false ∧ isQuote c = true) ∨
        (isSeparator c = false ∧ isQuote c = false ∧ isParen c = true) ∨
          (isSeparator c = false ∧ isQuote c = false ∧ isParen c = false) := by
  cases hs : isSeparator c with
  | true =>
    simp only [isSeparator, Bool.or_eq_true, beq_iff_eq] at hs
    rcases hs with (rfl | rfl) | rfl <;> decide
  | false => cases isQuote c <;> cases isParen c <;> simp

/-- A run of characters of a class ends where a character is not of the class. -/
theorem append_inj_of_head {p : Char → Bool} {xs ys us vs : List Char}
    (hxs : ∀ c ∈ xs, p c = true) (hys : ∀ c ∈ ys.head?, p c = false)
    (hus : ∀ c ∈ us, p c = true) (hvs : ∀ c ∈ vs.head?, p c = false)
    (h : xs ++ ys = us ++ vs) : xs = us ∧ ys = vs := by
  have htake {as bs : List Char} (has : ∀ c ∈ as, p c = true)
      (hbs : ∀ c ∈ bs.head?, p c = false) : (as ++ bs).takeWhile p = as := by
    have hnil : bs.takeWhile p = [] := by
      cases bs with
      | nil => rfl
      | cons b bs => simp [hbs b rfl]
    rw [List.takeWhile_append_of_pos has, hnil, List.append_nil]
  have hxu : xs = us := by rw [← htake hxs hys, h, htake hus hvs]
  subst hxu
  exact ⟨rfl, List.append_cancel_left h⟩

/-- A text is cut in one way at its first `q`. -/
theorem append_cons_inj {q : Char} {xs ys us vs : List Char} (hxs : q ∉ xs) (hus : q ∉ us)
    (h : xs ++ q :: ys = us ++ q :: vs) : xs = us ∧ ys = vs := by
  have hne {as : List Char} (has : q ∉ as) : ∀ c ∈ as, (c != q) = true := by
    intro c hc
    simpa using ne_of_mem_of_not_mem hc has
  obtain ⟨hfront, hrest⟩ := append_inj_of_head (hne hxs) (by simp) (hne hus) (by simp) h
  exact ⟨hfront, List.tail_eq_of_cons_eq hrest⟩

namespace Scan

/-- Reads several characters. -/
def run (s : Scan) (cs : List Char) : Except LexError Scan :=
  cs.foldlM step s

/-- Reads the rest of a text. -/
def complete (s : Scan) (cs : List Char) : Except LexError (List Token) := do
  (← s.run cs).finish

theorem tokenizeChars_eq_complete (cs : List Char) : tokenizeChars cs = start.complete cs := rfl

@[simp] theorem run_nil (s : Scan) : s.run [] = .ok s := rfl

theorem run_cons (s : Scan) (c : Char) (cs : List Char) :
    s.run (c :: cs) = s.step c >>= fun t => t.run cs := by
  rw [run, List.foldlM_cons]
  rfl

theorem run_append (s : Scan) (xs ys : List Char) :
    s.run (xs ++ ys) = s.run xs >>= fun t => t.run ys := by
  rw [run, List.foldlM_append]
  rfl

theorem run_cons_eq_ok_iff {s u : Scan} {c : Char} {cs : List Char} :
    s.run (c :: cs) = .ok u ↔ ∃ t, s.step c = .ok t ∧ t.run cs = .ok u := by
  rw [run_cons, bind_eq_ok_iff]

theorem run_append_eq_ok_iff {s u : Scan} {xs ys : List Char} :
    s.run (xs ++ ys) = .ok u ↔ ∃ t, s.run xs = .ok t ∧ t.run ys = .ok u := by
  rw [run_append, bind_eq_ok_iff]

theorem complete_append (s : Scan) (xs ys : List Char) :
    s.complete (xs ++ ys) = s.run xs >>= fun t => t.complete ys := by
  rw [complete, run_append]
  cases s.run xs with
  | error e => rfl
  | ok t => rfl

theorem complete_cons (s : Scan) (c : Char) (cs : List Char) :
    s.complete (c :: cs) = s.step c >>= fun t => t.complete cs := by
  rw [complete, run_cons]
  cases s.step c with
  | error e => rfl
  | ok t => rfl

/-! ## Finishing a bare token ahead of time -/

/-- The state with the bare token finished that the scan is in the middle of. -/
def settle (s : Scan) : Scan :=
  match s.current with
  | .bare start read => ⟨s.offset, .bare (textOf read) start :: s.found, .none⟩
  | _ => s

theorem finish_settle (s : Scan) : s.settle.finish = s.finish := by
  obtain ⟨o, found, _ | ⟨start, read⟩ | ⟨q, start, read⟩⟩ := s <;> rfl

theorem step_settle (s : Scan) {c : Char} (h : isBreak c = true) :
    s.settle.step c = s.step c := by
  obtain ⟨o, found, _ | ⟨start, read⟩ | ⟨q, start, read⟩⟩ := s
  · rfl
  · have hq := isQuote_of_isBreak h
    by_cases hs : isSeparator c = true
    · simp [settle, step, hs]
    · have hp : isParen c = true := by simpa [isBreak, hs] using h
      simp [settle, step, hs, hq, hp]
  · rfl

theorem complete_settle (s : Scan) {cs : List Char} (h : ∀ c ∈ cs.head?, isBreak c = true) :
    s.settle.complete cs = s.complete cs := by
  cases cs with
  | nil => exact s.finish_settle
  | cons c cs =>
    rw [complete_cons, complete_cons, step_settle s (h c (by simp))]

/-! ## Words -/

variable (o start : Nat) (found : List Token) (q : Char) (read : List Char)

theorem run_bare {cs : List Char} (h : ∀ c ∈ cs, isPlain c = true) :
    run ⟨o, found, .bare start read⟩ cs =
      .ok ⟨o + cs.length, found, .bare start (cs.reverse ++ read)⟩ := by
  induction cs generalizing o read with
  | nil => rfl
  | cons c cs ih =>
    obtain ⟨hs, hq, hp⟩ := isPlain_iff.1 (h c (by simp))
    have hstep : step ⟨o, found, .bare start read⟩ c =
        .ok ⟨o + 1, found, .bare start (c :: read)⟩ := by
      simp [step, hs, hq, hp]
    rw [run_cons, hstep, ok_bind, ih _ _ fun d hd => h d (by simp [hd])]
    simp [Nat.add_comm, Nat.add_left_comm]

theorem run_quoted {cs : List Char} (h : q ∉ cs) :
    run ⟨o, found, .quoted q start read⟩ cs =
      .ok ⟨o + cs.length, found, .quoted q start (cs.reverse ++ read)⟩ := by
  induction cs generalizing o read with
  | nil => rfl
  | cons c cs ih =>
    obtain ⟨hc, hcs⟩ : q ≠ c ∧ q ∉ cs := by simpa using h
    have hstep : step ⟨o, found, .quoted q start read⟩ c =
        .ok ⟨o + 1, found, .quoted q start (c :: read)⟩ := by
      simp [step, hc.symm]
    rw [run_cons, hstep, ok_bind, ih _ _ hcs]
    simp [Nat.add_comm, Nat.add_left_comm]

/-- A run of plain characters is a bare token. -/
theorem run_plain {cs : List Char} (hne : cs ≠ []) (h : ∀ c ∈ cs, isPlain c = true) :
    run ⟨o, found, .none⟩ cs = .ok ⟨o + cs.length, found, .bare o cs.reverse⟩ := by
  cases cs with
  | nil => exact absurd rfl hne
  | cons c cs =>
    obtain ⟨hs, hq, hp⟩ := isPlain_iff.1 (h c (by simp))
    have hstep : step ⟨o, found, .none⟩ c = .ok ⟨o + 1, found, .bare o [c]⟩ := by
      simp [step, hs, hq, hp]
    rw [run_cons, hstep, ok_bind, run_bare _ _ _ _ fun d hd => h d (by simp [hd])]
    simp [Nat.add_comm, Nat.add_left_comm]

/-- What stands between two quotes of a kind is a quoted token. -/
theorem run_between_quotes (hq : isQuote q = true) {cs : List Char} (h : q ∉ cs) :
    run ⟨o, found, .none⟩ ([q] ++ cs ++ [q]) =
      .ok ⟨o + cs.length + 2, .quoted (String.ofList cs) q o :: found, .none⟩ := by
  have hopen : step ⟨o, found, .none⟩ q = .ok ⟨o + 1, found, .quoted q o []⟩ := by
    simp [step, hq, isSeparator_of_isQuote hq]
  rw [List.append_assoc, List.singleton_append, run_cons, hopen, ok_bind, run_append,
    run_quoted _ _ _ _ _ h, ok_bind, run_cons]
  simp [step, textOf]
  omega

end Scan

end RecordFilter
