import RecordFilter.Proofs.CanonicalTokens

/-!
# Apostrophes in a canonical form

A canonical form with an apostrophe in a field or a value is never a sequence of tokens. The scan
takes the backslash before the apostrophe for content and the apostrophe for the end of the quoted
word. From there on it is out of step: between two words it is inside quotes (`InsideQuotes`), and
within a word it is outside apostrophes (`Astray`). Each word hands one state on to the other, and
no piece brings the scan back:

* an escaped apostrophe within a word meets a scan outside quotes, which refuses a quote after the
  backslash, or a scan inside double quotes, which takes both for content;
* the apostrophe that ends a word opens quotes, or is content of double quotes, or is refused.

So the scan is refused on the way or ends inside quotes, which is an error too.
-/

namespace RecordFilter

namespace Scan

/-- The scan is in the middle of a quoted token. -/
def InsideQuotes (s : Scan) : Prop :=
  ∃ q start read, isQuote q = true ∧ s.current = .quoted q start read

/-- The scan is outside quotes or in the middle of a token in double quotes. -/
def Astray (s : Scan) : Prop :=
  ∀ q start read, s.current = .quoted q start read → q = '"'

variable {s u : Scan} {cs : List Char}

/-! ## Inside quotes -/

theorem InsideQuotes.finish_ne_ok (h : s.InsideQuotes) (ts : List Token) :
    s.finish ≠ .ok ts := by
  obtain ⟨q, start, read, -, hs⟩ := h
  simp [finish, hs]

theorem InsideQuotes.run (h : s.InsideQuotes) (hcs : ∀ c ∈ cs, isQuote c = false)
    (hrun : s.run cs = .ok u) : u.InsideQuotes := by
  obtain ⟨o, found, current⟩ := s
  obtain ⟨q, start, read, hq, rfl : current = _⟩ := h
  have hnot : q ∉ cs := fun hmem => by simp [hcs q hmem] at hq
  rw [run_quoted _ _ _ _ _ hnot, Except.ok.injEq] at hrun
  exact ⟨q, start, _, hq, by rw [← hrun]⟩

/-- An apostrophe ends a token in apostrophes, and is content of one in double quotes. -/
theorem InsideQuotes.step_apostrophe (h : s.InsideQuotes) (hstep : s.step '\'' = .ok u) :
    u.Astray := by
  obtain ⟨q, start, read, hq, hs⟩ := h
  intro q' start' read' hu
  by_cases hap : '\'' = q
  · simp only [step, hs, hap, if_true, Except.ok.injEq] at hstep
    simp [← hstep] at hu
  · simp only [step, hs, hap, if_false, Except.ok.injEq] at hstep
    simp only [← hstep, OpenToken.quoted.injEq] at hu
    rw [← hu.1]
    simpa [isQuote, Ne.symm hap] using hq

/-! ## Within a word -/

theorem Astray.step (h : s.Astray) {c : Char} (hc : c ≠ '\'') (hstep : s.step c = .ok u) :
    u.Astray := by
  intro q start read hu
  obtain ⟨o, found, _ | ⟨st, r⟩ | ⟨q₀, st, r⟩⟩ := s
  · -- between tokens, only a double quote opens quotes
    simp only [Scan.step] at hstep
    split at hstep
    · cases hstep
      cases hu
    · split at hstep
      next hq =>
        cases hstep
        cases hu
        simpa [isQuote, hc] using hq
      next =>
        split at hstep <;> (cases hstep; cases hu)
  · -- within a bare token, nothing does
    simp only [Scan.step] at hstep
    split at hstep
    · cases hstep
      cases hu
    · split at hstep
      · cases hstep
      · split at hstep <;> (cases hstep; cases hu)
  · simp only [Scan.step] at hstep
    split at hstep
    · cases hstep
      cases hu
    · cases hstep
      cases hu
      exact h _ _ _ rfl

/-- An escaped apostrophe is refused outside quotes and is content of double quotes. -/
theorem Astray.run_escaped (h : s.Astray) (hrun : s.run ['\\', '\''] = .ok u) : u.Astray := by
  obtain ⟨o, found, _ | ⟨st, r⟩ | ⟨q₀, st, r⟩⟩ := s
  · cases hrun
  · cases hrun
  · obtain rfl : q₀ = '"' := h _ _ _ rfl
    cases hrun
    intro q start read hu
    cases hu
    rfl

theorem Astray.run_escapeApostrophes (h : s.Astray)
    (hrun : s.run (escapeApostrophes cs) = .ok u) : u.Astray := by
  induction cs generalizing s with
  | nil =>
    cases hrun
    exact h
  | cons c cs ih =>
    rw [escapeApostrophes, List.flatMap_cons, run_append_eq_ok_iff] at hrun
    obtain ⟨t, hc, hrest⟩ := hrun
    refine ih ?_ hrest
    split at hc
    next hap =>
      subst hap
      exact h.run_escaped hc
    next hap =>
      obtain ⟨t', hstep, ht⟩ := run_cons_eq_ok_iff.1 hc
      cases ht
      exact h.step hap hstep

/-- An apostrophe opens quotes, unless it is content of a token in double quotes. -/
theorem Astray.step_apostrophe (h : s.Astray) (hstep : s.step '\'' = .ok u) :
    u.InsideQuotes := by
  obtain ⟨o, found, _ | ⟨st, r⟩ | ⟨q₀, st, r⟩⟩ := s
  · cases hstep
    exact ⟨'\'', o, [], rfl, rfl⟩
  · cases hstep
  · obtain rfl : q₀ = '"' := h _ _ _ rfl
    cases hstep
    exact ⟨'"', st, _, rfl, rfl⟩

/-! ## A whole word -/

/-- The rest of a word in apostrophes, from a scan that is astray, ends inside quotes. -/
theorem Astray.run_rest (h : s.Astray)
    (hrun : s.run (escapeApostrophes cs ++ ['\'']) = .ok u) : u.InsideQuotes := by
  obtain ⟨t, hbody, hlast⟩ := run_append_eq_ok_iff.1 hrun
  obtain ⟨t', hstep, ht⟩ := run_cons_eq_ok_iff.1 hlast
  cases ht
  exact (h.run_escapeApostrophes hbody).step_apostrophe hstep

theorem isQuote_chars_of_mark {p : Piece} (hp : p.isWord = false) :
    ∀ c ∈ p.chars, isQuote c = false := by
  have hall : (p.chars.all fun c => !isQuote c) = true := by
    cases p with
    | opening => decide
    | closing => decide
    | keyword k => cases k <;> decide
    | operator o => cases o <;> decide
    | word s => exact absurd hp (by simp [Piece.isWord])
  simpa using hall

/-- A scan inside quotes stays inside quotes over each piece that it gets past. -/
theorem InsideQuotes.run_piece (h : s.InsideQuotes) {p : Piece} (hrun : s.run p.chars = .ok u) :
    u.InsideQuotes := by
  cases hw : p.isWord with
  | false => exact h.run (isQuote_chars_of_mark hw) hrun
  | true =>
    cases p with
    | word w =>
      simp only [Piece.chars, quoteIfNeeded] at hrun
      split at hrun
      · rw [inApostrophes_toList] at hrun
        obtain ⟨t, hstep, hrest⟩ := run_cons_eq_ok_iff.1 hrun
        exact (h.step_apostrophe hstep).run_rest hrest
      next hn =>
        obtain ⟨-, hplain, -⟩ := needsQuotes_eq_false (Bool.eq_false_iff.2 hn)
        exact h.run (fun c hc => (isPlain_iff.1 (hplain c hc)).2.1) hrun
    | _ => exact absurd hw (by simp [Piece.isWord])

/-- The first escaped apostrophe of a word brings the scan out of step. -/
theorem run_word_of_apostrophe {w : String} (hw : '\'' ∈ w.toList) {o : Nat}
    {found : List Token} (hrun : run ⟨o, found, .none⟩ (Piece.word w).chars = .ok u) :
    u.InsideQuotes := by
  obtain ⟨before, after, hsplit, hbefore⟩ := List.eq_append_cons_of_mem hw
  have hescape := escapeApostrophes_append_cons hbefore after
  rw [← hsplit] at hescape
  have hcontent : '\'' ∉ before ++ ['\\'] := by simpa using hbefore
  simp only [Piece.chars, quoteIfNeeded, needsQuotes_of_hasApostrophe hw, if_true,
    inApostrophes_toList, hescape, List.append_assoc _ _ ['\''], List.cons_append] at hrun
  -- the opening apostrophe, the content up to the backslash, and the apostrophe that ends it
  obtain ⟨t, hopen, hrun⟩ := run_cons_eq_ok_iff.1 hrun
  cases hopen
  obtain ⟨t, hcont, hrun⟩ := run_append_eq_ok_iff.1 hrun
  rw [run_quoted _ _ _ _ _ hcontent] at hcont
  cases hcont
  obtain ⟨t, hclose, hrun⟩ := run_cons_eq_ok_iff.1 hrun
  have hastray : t.Astray := by
    cases hclose
    intro q start read ht
    cases ht
  exact hastray.run_rest hrun

/-! ## A row of pieces -/

theorem InsideQuotes.complete_pieces_ne_ok (h : s.InsideQuotes) (ps : List Piece)
    (ts : List Token) : s.complete (piecesChars ps) ≠ .ok ts := by
  induction ps generalizing s with
  | nil => exact h.finish_ne_ok ts
  | cons p ps ih =>
    rw [piecesChars_cons, complete_append]
    intro hok
    obtain ⟨u, hrun, hrest⟩ := bind_eq_ok_iff.1 hok
    exact ih (h.run_piece hrun) hrest

/-- A row of pieces with an apostrophe is no sequence of tokens. -/
theorem complete_pieces_ne_ok {ps : List Piece} (hsep : Separated ps)
    (hps : ps.any Piece.hasApostrophe = true) (o : Nat) (found ts : List Token) :
    complete ⟨o, found, .none⟩ (piecesChars ps) ≠ .ok ts := by
  induction ps generalizing o found with
  | nil => simp at hps
  | cons p ps ih =>
    cases hp : p.hasApostrophe with
    | false =>
      have hrest : ps.any Piece.hasApostrophe = true := by simpa [hp] using hps
      obtain ⟨k, hstep⟩ := complete_piece hsep hp o found
      rw [hstep]
      exact ih hsep.tail hrest _ _
    | true =>
      cases p with
      | word w =>
        have hw : '\'' ∈ w.toList := by simpa [Piece.hasApostrophe] using hp
        rw [piecesChars_cons, complete_append]
        intro hok
        obtain ⟨u, hrun, hrest⟩ := bind_eq_ok_iff.1 hok
        exact (run_word_of_apostrophe hw hrun).complete_pieces_ne_ok ps ts hrest
      | _ => exact absurd hp (by simp [Piece.hasApostrophe])

end Scan

/-- The canonical form of a tree is a sequence of tokens exactly if no field and no value of the
tree has an apostrophe. -/
theorem exists_tokenize_render_iff (e : Expr) :
    (∃ ts, tokenize e.render = .ok ts) ↔
      ∀ c ∈ e.conditions, '\'' ∉ c.field.toList ∧ '\'' ∉ c.value.toList := by
  constructor
  · rintro ⟨ts, hts⟩
    refine Expr.any_hasApostrophe_pieces_eq_false_iff.1 (Bool.eq_false_iff.2 fun hap => ?_)
    rw [tokenize, Expr.render_toList, Scan.tokenizeChars_eq_complete] at hts
    exact Scan.complete_pieces_ne_ok e.separated_pieces hap 0 [] ts hts
  · intro h
    obtain ⟨ts, hts, -⟩ := exists_tokenize_render (e := e) h
    exact ⟨ts, hts⟩

end RecordFilter
