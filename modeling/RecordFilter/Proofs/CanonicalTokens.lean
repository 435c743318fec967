import RecordFilter.Proofs.Pieces

/-!
# The tokens of a canonical form

A row of pieces without an apostrophe is read as one token a piece (`complete_pieces`). The
hypothesis that words are separated is what lets a bare word end where it ends: after it comes
nothing, or a piece that begins with a space or a parenthesis.
-/

namespace RecordFilter

/-- Each piece is read as its token, at some offset. -/
def ReadAs (ps : List Piece) (ts : List Token) : Prop :=
  List.Forall₂ (fun p t => t = p.token t.offset) ps ts

/-! ## Words -/

theorem isSeparator_eq_false_of_not_blank {c : Char} (h : CharClass.blank.contains c = false) :
    isSeparator c = false := by
  refine Bool.eq_false_iff.2 fun hs => ?_
  simp only [isSeparator, Bool.or_eq_true, beq_iff_eq] at hs
  rcases hs with (rfl | rfl) | rfl <;> exact absurd h (by decide)

theorem isPlain_of_not_breaks {c : Char} (h : breaksBareToken c = false) :
    isPlain c = true := by
  simp only [breaksBareToken, Bool.or_eq_false_iff] at h
  obtain ⟨⟨⟨⟨hap, hdq⟩, hop⟩, hcl⟩, hblank⟩ := h
  refine isPlain_iff.2 ⟨isSeparator_eq_false_of_not_blank hblank, ?_, ?_⟩
  · rw [isQuote, hap, hdq]
    rfl
  · rw [isParen, hop, hcl]
    rfl

/-- What a word has that is written without apostrophes. -/
theorem needsQuotes_eq_false {s : String} (h : needsQuotes s = false) :
    s.toList ≠ [] ∧ (∀ c ∈ s.toList, isPlain c = true) ∧
      eqIgnoringAsciiCase s "and" = false ∧ eqIgnoringAsciiCase s "or" = false := by
  simp only [needsQuotes, Bool.or_eq_false_iff, List.any_eq_false, Bool.not_eq_true] at h
  obtain ⟨⟨⟨hne, hbreaks⟩, hand⟩, hor⟩ := h
  refine ⟨?_, fun c hc => isPlain_of_not_breaks (hbreaks c hc), hand, hor⟩
  intro hnil
  rw [String.toList_eq_nil_iff.1 hnil] at hne
  exact absurd hne (by decide)

theorem needsQuotes_of_hasApostrophe {s : String} (h : '\'' ∈ s.toList) :
    needsQuotes s = true := by
  have hany : s.toList.any breaksBareToken = true :=
    List.any_eq_true.2 ⟨'\'', h, by decide⟩
  simp [needsQuotes, hany]

theorem escapeApostrophes_eq_self {cs : List Char} (h : '\'' ∉ cs) :
    escapeApostrophes cs = cs :=
  Token.flatMap_escape_eq_self h

/-- The first apostrophe of a text and what stands before it, the backslash last. -/
theorem escapeApostrophes_append_cons {before : List Char} (h : '\'' ∉ before)
    (after : List Char) :
    escapeApostrophes (before ++ '\'' :: after) =
      before ++ ['\\'] ++ '\'' :: escapeApostrophes after := by
  have hself := escapeApostrophes_eq_self h
  rw [escapeApostrophes] at hself
  rw [escapeApostrophes, List.flatMap_append, hself]
  simp [escapeApostrophes]

theorem inApostrophes_toList (s : String) :
    (inApostrophes s).toList = '\'' :: (escapeApostrophes s.toList ++ ['\'']) := by
  simp [inApostrophes]

/-! ## One piece -/

namespace Scan

variable (o : Nat) (found : List Token)

/-- A piece that is no word is read to its end. -/
theorem run_mark {p : Piece} (hp : p.isWord = false) :
    ∃ k, run ⟨o, found, .none⟩ p.chars =
      .ok ⟨o + p.chars.length, p.token k :: found, .none⟩ := by
  cases p with
  | opening => exact ⟨o, rfl⟩
  | closing => exact ⟨o, rfl⟩
  | keyword k => cases k <;> exact ⟨o + 1, rfl⟩
  | operator s => cases s <;> exact ⟨o + 1, rfl⟩
  | word s => exact absurd hp (by simp [Piece.isWord])

/-- A word without an apostrophe is read to its end, or but for its end if it is bare. -/
theorem run_word {s : String} (hs : '\'' ∉ s.toList) :
    ∃ u, run ⟨o, found, .none⟩ (Piece.word s).chars = .ok u ∧
      u.settle = ⟨o + (Piece.word s).chars.length, (Piece.word s).token o :: found, .none⟩ := by
  simp only [Piece.chars, Piece.token, quoteIfNeeded]
  cases hn : needsQuotes s with
  | false =>
    obtain ⟨hne, hplain, -⟩ := needsQuotes_eq_false hn
    refine ⟨_, run_plain o found hne hplain, ?_⟩
    simp [settle, textOf]
  | true =>
    have hrun := run_between_quotes o found '\'' rfl hs
    rw [List.append_assoc, List.singleton_append] at hrun
    simp only [if_true, inApostrophes_toList, escapeApostrophes_eq_self hs]
    refine ⟨_, hrun, ?_⟩
    simp [settle, Nat.add_assoc]

theorem run_piece {p : Piece} (hp : p.hasApostrophe = false) :
    ∃ u k, run ⟨o, found, .none⟩ p.chars = .ok u ∧ (p.isWord = false → u.settle = u) ∧
      u.settle = ⟨o + p.chars.length, p.token k :: found, .none⟩ := by
  cases hw : p.isWord with
  | false =>
    obtain ⟨k, hrun⟩ := run_mark o found hw
    exact ⟨_, k, hrun, fun _ => rfl, rfl⟩
  | true =>
    cases p with
    | word s =>
      obtain ⟨u, hrun, hu⟩ := run_word o found (s := s) (by simpa [Piece.hasApostrophe] using hp)
      exact ⟨u, o, hrun, by simp, hu⟩
    | _ => exact absurd hw (by simp [Piece.isWord])

end Scan

/-! ## A row of pieces -/

/-- A piece that is no word begins with a space or a parenthesis. -/
theorem exists_chars_of_mark {p : Piece} (hp : p.isWord = false) :
    ∃ c rest, p.chars = c :: rest ∧ isBreak c = true := by
  cases p with
  | opening => exact ⟨'(', _, rfl, rfl⟩
  | closing => exact ⟨')', _, rfl, rfl⟩
  | keyword k => exact ⟨' ', _, rfl, rfl⟩
  | operator s => exact ⟨' ', _, rfl, rfl⟩
  | word s => exact absurd hp (by simp [Piece.isWord])

theorem Separated.tail {p : Piece} {ps : List Piece} (h : Separated (p :: ps)) :
    Separated ps :=
  List.IsChain.tail h

/-- What follows a word begins with a space or a parenthesis. -/
theorem Separated.isBreak_head {p : Piece} {ps : List Piece} (h : Separated (p :: ps))
    (hp : p.isWord = true) : ∀ c ∈ (piecesChars ps).head?, isBreak c = true := by
  cases ps with
  | nil => simp
  | cons q ps =>
    have hq : q.isWord = false := by
      simpa [hp] using (List.isChain_cons_cons.1 h).1
    obtain ⟨c, rest, hchars, hc⟩ := exists_chars_of_mark hq
    simpa [hchars] using hc

namespace Scan

/-- The scan goes on after a piece as if the piece's token were finished. -/
theorem complete_piece {p : Piece} {ps : List Piece} (hsep : Separated (p :: ps))
    (hp : p.hasApostrophe = false) (o : Nat) (found : List Token) :
    ∃ k, complete ⟨o, found, .none⟩ (piecesChars (p :: ps)) =
      complete ⟨o + p.chars.length, p.token k :: found, .none⟩ (piecesChars ps) := by
  obtain ⟨u, k, hrun, hmark, hu⟩ := run_piece o found hp
  refine ⟨k, ?_⟩
  rw [piecesChars_cons, complete_append, hrun, ok_bind, ← hu]
  cases hw : p.isWord with
  | false => rw [hmark hw]
  | true =>
    -- a bare word is still open, and what follows it ends it
    exact (complete_settle u (hsep.isBreak_head hw)).symm

/-- A row of pieces without an apostrophe is read as the tokens of its pieces. -/
theorem complete_pieces {ps : List Piece} (hsep : Separated ps)
    (hps : ps.any Piece.hasApostrophe = false) (o : Nat) (found : List Token) :
    ∃ ts, complete ⟨o, found, .none⟩ (piecesChars ps) = .ok (found.reverse ++ ts) ∧
      ReadAs ps ts := by
  induction ps generalizing o found with
  | nil => exact ⟨[], by simp [complete, finish], .nil⟩
  | cons p ps ih =>
    obtain ⟨hp, hrest⟩ := Bool.or_eq_false_iff.1 (List.any_cons ▸ hps)
    obtain ⟨k, hstep⟩ := complete_piece hsep hp o found
    obtain ⟨ts, hts, hread⟩ := ih hsep.tail hrest (o + p.chars.length) (p.token k :: found)
    refine ⟨p.token k :: ts, ?_, .cons (by rw [Piece.token_offset]) hread⟩
    rw [hstep, hts, List.reverse_cons, List.append_assoc, List.singleton_append]

end Scan

/-- The canonical form of a tree without apostrophes is read as the tokens of its pieces. -/
theorem exists_tokenize_render {e : Expr} (h : e.IsApostropheFree) :
    ∃ ts, tokenize e.render = .ok ts ∧ ReadAs e.pieces ts := by
  obtain ⟨ts, hts, hread⟩ := Scan.complete_pieces e.separated_pieces
    (Expr.any_hasApostrophe_pieces_eq_false_iff.2 h) 0 []
  refine ⟨ts, ?_, hread⟩
  rw [tokenize, Expr.render_toList, Scan.tokenizeChars_eq_complete]
  exact hts

end RecordFilter
