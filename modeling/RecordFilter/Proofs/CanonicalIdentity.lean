import RecordFilter.Proofs.Apostrophes
import RecordFilter.Proofs.ReadTrees
import RecordFilter.Proofs.RoundTrip

/-!
# A canonical form has one tree

Two trees with no empty group have the same canonical form only if they are the same but for their
groups of one (`render_eq_render_iff`). That holds of every text, those included that are no
filter texts for an apostrophe in them, so it cannot come from reading the text back.

It comes from the pieces: a text is the canonical form of one row of pieces at most
(`piecesChars_injective`). The row is found piece by piece from the left, and only one thing is in
doubt. Where a backslash stands before an apostrophe within a quoted word, the word may go on, the
apostrophe being part of it, or end, the backslash being its last character. Say that one row ends
the word there and another goes on. The next apostrophe of the text opens a word in the first row,
so no backslash stands before it, and so it ends the word in the second row. Now it is the first row
that is within a word and the second that is not, and the same holds again with the two changed
over. So they are never both outside words, and one of them does not end with the text
(`piecesChars_ne_escaped`).
-/

namespace RecordFilter

/-! ## Words and marks, told apart by their characters -/

namespace Piece

/-- Whether the piece is a word that is written in apostrophes. -/
def isQuotedWord : Piece → Bool
  | .word s => needsQuotes s
  | _ => false

theorem isWord_eq_false_or (p : Piece) : p.isWord = false ∨ ∃ s, p = .word s := by
  cases p with
  | word s => exact .inr ⟨s, rfl⟩
  | _ => exact .inl rfl

theorem chars_of_needsQuotes {s : String} (h : needsQuotes s = true) :
    (word s).chars = '\'' :: (escapeApostrophes s.toList ++ ['\'']) := by
  rw [chars, quoteIfNeeded, if_pos h, inApostrophes_toList]

theorem chars_of_not_needsQuotes {s : String} (h : needsQuotes s = false) :
    (word s).chars = s.toList := by
  rw [chars, quoteIfNeeded, h]
  rfl

theorem apostrophe_notMem_chars {p : Piece} (h : p.isQuotedWord = false) : '\'' ∉ p.chars := by
  intro hap
  rcases p.isWord_eq_false_or with hw | ⟨s, rfl⟩
  · exact absurd (Scan.isQuote_chars_of_mark hw _ hap) (by decide)
  · rw [chars_of_not_needsQuotes h] at hap
    obtain ⟨-, hplain, -⟩ := needsQuotes_eq_false h
    exact absurd (hplain _ hap) (by decide)

/-- A piece that is no word ends with a space or a parenthesis. -/
theorem exists_chars_append_of_mark {p : Piece} (hp : p.isWord = false) :
    ∃ front c, p.chars = front ++ [c] ∧ isBreak c = true := by
  cases p with
  | opening => exact ⟨[], '(', rfl, rfl⟩
  | closing => exact ⟨[], ')', rfl, rfl⟩
  | keyword k => exact ⟨_, ' ', rfl, rfl⟩
  | operator o => exact ⟨_, ' ', rfl, rfl⟩
  | word s => exact absurd hp (by simp [isWord])

/-- A word begins with an apostrophe, or with a plain character if it is bare. -/
theorem exists_chars_of_word (s : String) :
    ∃ c rest, (word s).chars = c :: rest ∧
      if needsQuotes s then c = '\'' else isPlain c = true := by
  cases h : needsQuotes s with
  | true => exact ⟨'\'', _, chars_of_needsQuotes h, rfl⟩
  | false =>
    obtain ⟨hne, hplain, -⟩ := needsQuotes_eq_false h
    obtain ⟨c, rest, hs⟩ := List.exists_cons_of_ne_nil hne
    refine ⟨c, rest, (chars_of_not_needsQuotes h).trans hs, ?_⟩
    exact hplain c (by simp [hs])

theorem chars_ne_nil (p : Piece) : p.chars ≠ [] := by
  rcases p.isWord_eq_false_or with hw | ⟨s, rfl⟩
  · obtain ⟨c, rest, hchars, -⟩ := exists_chars_of_mark hw
    simp [hchars]
  · obtain ⟨c, rest, hchars, -⟩ := exists_chars_of_word s
    simp [hchars]

end Piece

/-! ## Rows of pieces -/

theorem Separated.right_of_append {ps qs : List Piece} (h : Separated (ps ++ qs)) :
    Separated qs :=
  List.IsChain.right_of_append h

/-! ## Where a quoted word ends -/

theorem escapeApostrophes_cons (c : Char) (cs : List Char) :
    escapeApostrophes (c :: cs) =
      (if c = '\'' then ['\\', c] else [c]) ++ escapeApostrophes cs := by
  rw [escapeApostrophes, List.flatMap_cons]
  rfl

/-- No text with its apostrophes escaped begins with an apostrophe. -/
theorem escapeApostrophes_cons_ne (c : Char) (cs xs ys : List Char) :
    escapeApostrophes (c :: cs) ++ xs ≠ '\'' :: ys := by
  rw [escapeApostrophes_cons]
  split
  · simp
  next hc => simp [hc]

/-- An apostrophe without a backslash before it, the first one of the text, ends the word. -/
theorem apostrophe_ends_word {xs ys cs zs : List Char} (hxs : '\'' ∉ xs)
    (hlast : xs.getLast? ≠ some '\\')
    (h : xs ++ '\'' :: ys = escapeApostrophes cs ++ '\'' :: zs) : xs = cs ∧ ys = zs := by
  by_cases hap : '\'' ∈ cs
  · obtain ⟨before, after, rfl, hbefore⟩ := List.eq_append_cons_of_mem hap
    have hcontent : '\'' ∉ before ++ ['\\'] := by simpa using hbefore
    rw [escapeApostrophes_append_cons hbefore, List.append_assoc, List.cons_append] at h
    obtain ⟨rfl, -⟩ := append_cons_inj hxs hcontent h
    simp at hlast
  · rw [escapeApostrophes_eq_self hap] at h
    exact append_cons_inj hxs hap h

/-- Where a row that stands after a word has an apostrophe, the first one opens a word, and no
backslash stands before it. -/
theorem exists_first_quotedWord {w : String} {ps : List Piece} (hsep : Separated (.word w :: ps))
    (hap : '\'' ∈ piecesChars ps) :
    ∃ front s rest, ps = front ++ .word s :: rest ∧ needsQuotes s = true ∧
      '\'' ∉ piecesChars front ∧ (piecesChars front).getLast? ≠ some '\\' := by
  cases hfind : ps.find? Piece.isQuotedWord with
  | none =>
    obtain ⟨p, hp, hpap⟩ := List.mem_flatMap.1 hap
    have hbare := List.find?_eq_none.1 hfind p hp
    exact absurd hpap (Piece.apostrophe_notMem_chars (Bool.eq_false_iff.2 hbare))
  | some p =>
    obtain ⟨hp, front, rest, rfl, hfront⟩ := List.find?_eq_some_iff_append.1 hfind
    obtain ⟨s, rfl, hs⟩ : ∃ s, p = .word s ∧ needsQuotes s = true := by
      cases p with
      | word s => exact ⟨s, rfl, hp⟩
      | _ => exact absurd hp (by simp [Piece.isQuotedWord])
    refine ⟨front, s, rest, rfl, hs, ?_, ?_⟩
    · intro hmem
      obtain ⟨q, hq, hqap⟩ := List.mem_flatMap.1 hmem
      exact Piece.apostrophe_notMem_chars (by simpa using hfront q hq) hqap
    · -- the piece before the word is no word itself
      rcases List.eq_nil_or_concat front with rfl | ⟨front, m, rfl⟩
      · simp
      · have hm : m.isWord = false := by
          rw [List.concat_eq_append, List.append_assoc, List.singleton_append,
            ← List.cons_append] at hsep
          simpa [Piece.isWord] using (List.isChain_cons_cons.1 hsep.right_of_append).1
        obtain ⟨before, c, hchars, hc⟩ := Piece.exists_chars_append_of_mark hm
        have hne : c ≠ '\\' := by
          rintro rfl
          exact absurd hc (by decide)
        simpa [List.concat_eq_append, hchars, ← List.append_assoc] using hne

/-- No text goes on after an apostrophe both with a row of pieces and with the rest of a quoted
word. -/
theorem piecesChars_ne_escaped {v w : String} {ps qs : List Piece}
    (hps : Separated (.word v :: ps)) (hqs : Separated (.word w :: qs)) (cs : List Char) :
    piecesChars ps ≠ escapeApostrophes cs ++ '\'' :: piecesChars qs := by
  intro h
  obtain ⟨front, s, rest, rfl, hs, hfront, hlast⟩ := exists_first_quotedWord hps (by simp [h])
  rw [piecesChars_append, piecesChars_cons, Piece.chars_of_needsQuotes hs, List.cons_append,
    List.append_assoc, List.singleton_append] at h
  obtain ⟨-, hrest⟩ := apostrophe_ends_word hfront hlast h
  rw [← List.cons_append] at hps
  -- now the word `s` is open, and the other row has gone past its word
  exact piecesChars_ne_escaped hqs hps.right_of_append s.toList hrest.symm
termination_by ps.length + qs.length
decreasing_by
  subst_vars
  simp only [List.length_append, List.length_cons]
  omega

/-- An apostrophe that is part of one quoted word is part of the other one. -/
theorem escaped_apostrophe_ne {v w : String} {ps qs : List Piece}
    (hps : Separated (.word v :: ps)) (hqs : Separated (.word w :: qs)) {d : Char}
    (hd : d ≠ '\'') (cs ds : List Char) :
    escapeApostrophes ('\'' :: cs) ++ '\'' :: piecesChars ps ≠
      escapeApostrophes (d :: ds) ++ '\'' :: piecesChars qs := by
  intro h
  rw [escapeApostrophes_cons, escapeApostrophes_cons, if_pos rfl, if_neg hd] at h
  -- the backslash is a character of the other word, so the apostrophe would end that word
  have hrest : '\'' :: (escapeApostrophes cs ++ '\'' :: piecesChars ps) =
      escapeApostrophes ds ++ '\'' :: piecesChars qs := List.tail_eq_of_cons_eq h
  cases ds with
  | nil => exact piecesChars_ne_escaped hqs hps cs (List.tail_eq_of_cons_eq hrest).symm
  | cons e ds => exact escapeApostrophes_cons_ne e ds _ _ hrest.symm

/-- Quoted words at the front of two equal texts are the same. -/
theorem escaped_append_inj {v w : String} {ps qs : List Piece} (hps : Separated (.word v :: ps))
    (hqs : Separated (.word w :: qs)) {cs ds : List Char}
    (h : escapeApostrophes cs ++ '\'' :: piecesChars ps =
      escapeApostrophes ds ++ '\'' :: piecesChars qs) :
    cs = ds ∧ piecesChars ps = piecesChars qs := by
  induction cs generalizing ds with
  | nil =>
    cases ds with
    | nil => exact ⟨rfl, List.tail_eq_of_cons_eq h⟩
    | cons d ds => exact absurd h.symm (escapeApostrophes_cons_ne d ds _ _)
  | cons c cs ih =>
    cases ds with
    | nil => exact absurd h (escapeApostrophes_cons_ne c cs _ _)
    | cons d ds =>
      by_cases hc : c = '\'' <;> by_cases hd : d = '\''
      · subst hc hd
        rw [escapeApostrophes_cons, escapeApostrophes_cons, List.append_assoc,
          List.append_assoc] at h
        obtain ⟨rfl, hrest⟩ := ih (List.append_cancel_left h)
        exact ⟨rfl, hrest⟩
      · subst hc
        exact absurd h (escaped_apostrophe_ne hps hqs hd cs ds)
      · subst hd
        exact absurd h.symm (escaped_apostrophe_ne hqs hps hc ds cs)
      · rw [escapeApostrophes_cons, escapeApostrophes_cons, if_neg hc, if_neg hd] at h
        obtain ⟨rfl, htail⟩ := List.cons.inj h
        obtain ⟨rfl, hrest⟩ := ih htail
        exact ⟨rfl, hrest⟩

/-! ## The row of pieces of a text -/

/-- Marks at the front of two equal texts are the same. -/
theorem mark_append_inj {p q : Piece} (hp : p.isWord = false) (hq : q.isWord = false)
    {xs ys : List Char} (h : p.chars ++ xs = q.chars ++ ys) : p = q ∧ xs = ys := by
  have hpq : p = q := by
    rcases p with _ | _ | (_ | _) | (_ | _) | s <;> rcases q with _ | _ | (_ | _) | (_ | _) | t <;>
      simp [Piece.isWord, Piece.chars, Connective.keyword, Operator.symbol] at hp hq h ⊢
  subst hpq
  exact ⟨rfl, List.append_cancel_left h⟩

/-- No text begins both with a mark and with a word. -/
theorem mark_append_ne_word {p : Piece} (hp : p.isWord = false) (s : String) (xs ys : List Char) :
    p.chars ++ xs ≠ (Piece.word s).chars ++ ys := by
  intro h
  obtain ⟨c, front, hmark, hc⟩ := exists_chars_of_mark hp
  obtain ⟨d, back, hword, hd⟩ := Piece.exists_chars_of_word s
  rw [hmark, hword] at h
  obtain rfl : c = d := List.head_eq_of_cons_eq h
  split at hd
  · subst hd
    exact absurd hc (by decide)
  · exact absurd hd (by simp [isPlain_eq_false_of_isBreak hc])

/-- No text begins both with a quoted word and with a bare one. -/
theorem quoted_append_ne_bare {s t : String} (hs : needsQuotes s = true)
    (ht : needsQuotes t = false) (xs ys : List Char) :
    (Piece.word s).chars ++ xs ≠ (Piece.word t).chars ++ ys := by
  intro h
  obtain ⟨c, back, hbare, hc⟩ := Piece.exists_chars_of_word t
  rw [Piece.chars_of_needsQuotes hs, hbare] at h
  obtain rfl : '\'' = c := List.head_eq_of_cons_eq h
  rw [ht] at hc
  exact absurd hc (by decide)

/-- Words at the front of two equal texts are the same. -/
theorem word_append_inj {s t : String} {ps qs : List Piece} (hps : Separated (.word s :: ps))
    (hqs : Separated (.word t :: qs))
    (h : (Piece.word s).chars ++ piecesChars ps = (Piece.word t).chars ++ piecesChars qs) :
    s = t ∧ piecesChars ps = piecesChars qs := by
  cases hs : needsQuotes s <;> cases ht : needsQuotes t
  · -- two bare words end where what follows begins
    rw [Piece.chars_of_not_needsQuotes hs, Piece.chars_of_not_needsQuotes ht] at h
    obtain ⟨-, hsplain, -⟩ := needsQuotes_eq_false hs
    obtain ⟨-, htplain, -⟩ := needsQuotes_eq_false ht
    obtain ⟨hst, hrest⟩ := append_inj_of_head hsplain
      (fun c hc => isPlain_eq_false_of_isBreak (hps.isBreak_head rfl c hc)) htplain
      (fun c hc => isPlain_eq_false_of_isBreak (hqs.isBreak_head rfl c hc)) h
    exact ⟨String.toList_inj.1 hst, hrest⟩
  · exact absurd h.symm (quoted_append_ne_bare ht hs _ _)
  · exact absurd h (quoted_append_ne_bare hs ht _ _)
  · rw [Piece.chars_of_needsQuotes hs, Piece.chars_of_needsQuotes ht] at h
    have hwords := List.tail_eq_of_cons_eq h
    obtain ⟨hst, hrest⟩ := escaped_append_inj hps hqs (by simpa using hwords)
    exact ⟨String.toList_inj.1 hst, hrest⟩

/-- Pieces at the front of two equal texts are the same. -/
theorem piece_append_inj {p q : Piece} {ps qs : List Piece} (hps : Separated (p :: ps))
    (hqs : Separated (q :: qs)) (h : p.chars ++ piecesChars ps = q.chars ++ piecesChars qs) :
    p = q ∧ piecesChars ps = piecesChars qs := by
  rcases p.isWord_eq_false_or with hp | ⟨s, rfl⟩ <;>
    rcases q.isWord_eq_false_or with hq | ⟨t, rfl⟩
  · exact mark_append_inj hp hq h
  · exact absurd h (mark_append_ne_word hp t _ _)
  · exact absurd h.symm (mark_append_ne_word hq s _ _)
  · obtain ⟨rfl, hrest⟩ := word_append_inj hps hqs h
    exact ⟨rfl, hrest⟩

/-- A text is at most one row of pieces. -/
theorem piecesChars_injective {ps qs : List Piece} (hps : Separated ps) (hqs : Separated qs)
    (h : piecesChars ps = piecesChars qs) : ps = qs := by
  induction ps generalizing qs with
  | nil =>
    cases qs with
    | nil => rfl
    | cons q qs => simp [q.chars_ne_nil] at h
  | cons p ps ih =>
    cases qs with
    | nil => simp [p.chars_ne_nil] at h
    | cons q qs =>
      obtain ⟨rfl, hrest⟩ := piece_append_inj hps hqs h
      rw [ih hps.tail hqs.tail hrest]

/-! ## The tree of a row of pieces -/

theorem readAs_map_token (ps : List Piece) : ReadAs ps (ps.map (·.token 0)) := by
  refine List.forall₂_map_right_iff.2 (List.forall₂_same.2 fun p _ => ?_)
  rw [Piece.token_offset]

namespace Expr

variable {a b : Expr} (ha : a.IsFilled) (hb : b.IsFilled)
include ha hb

/-- The tree can be read back from its pieces, if only parentheses may nest deep enough. -/
theorem collapse_eq_of_pieces_eq (h : a.pieces = b.pieces) : a.collapse = b.collapse := by
  -- as many levels as the deeper one of the two needs
  let levels := max a.collapse.nesting b.collapse.nesting
  have hread {e : Expr} (he : e.IsFilled) (hle : e.collapse.nesting ≤ levels) :
      readNested .strict levels (e.pieces.map (·.token 0)) = .ok e.collapse := by
    have hts := readAs_map_token e.pieces
    rw [readNested_of_readAs .strict he levels hts, orTooDeep,
      (firstNested_eq_none_iff he hts levels).2 hle]
  have hboth := (hread ha (Nat.le_max_left _ _)).symm.trans (h ▸ hread hb (Nat.le_max_right _ _))
  exact Except.ok.inj hboth

theorem collapse_eq_iff_render_eq : a.collapse = b.collapse ↔ a.render = b.render := by
  constructor
  · intro h
    rw [← a.render_collapse, h, b.render_collapse]
  · intro h
    refine collapse_eq_of_pieces_eq ha hb ?_
    refine piecesChars_injective a.separated_pieces b.separated_pieces ?_
    rw [← render_toList, ← render_toList, h]

omit hb in
theorem pieces_ne_nil : a.pieces ≠ [] := by
  induction a using inductBySize with
  | condition c => simp [pieces]
  | empty k => exact absurd rfl (isFilled_group.1 ha).1
  | single k e ih =>
    rw [pieces_group_singleton]
    exact ih ((isFilled_group.1 ha).2 e (by simp))
  | several k x y es ih => simp [pieces_group_cons_cons]

omit hb in
/-- Only the vacuous filter is written as the empty text. -/
theorem render_ne_empty : a.render ≠ "" := by
  intro h
  have hchars : piecesChars a.pieces = piecesChars [] := by
    rw [← render_toList, h]
    rfl
  exact pieces_ne_nil ha (piecesChars_injective a.separated_pieces List.isChain_nil hchars)

end Expr

/-- Filters that have been read are the same if their canonical forms are. -/
theorem eq_of_parse_of_render_eq {m n : ParseMode} {x y : String} {a b : Expr}
    (ha : parse m x = .ok a) (hb : parse n y = .ok b) (h : a.render = b.render) : a = b := by
  rcases isBranching_or_eq_vacuous ha with hbra | rfl <;>
    rcases isBranching_or_eq_vacuous hb with hbrb | rfl
  · rw [← hbra.collapse_eq, ← hbrb.collapse_eq]
    exact (Expr.collapse_eq_iff_render_eq hbra.isFilled hbrb.isFilled).2 h
  · exact absurd h (Expr.render_ne_empty hbra.isFilled)
  · exact absurd h.symm (Expr.render_ne_empty hbrb.isFilled)
  · rfl

/-- Trees with no empty group have the same canonical form exactly if they are the same but for
their groups of one. Then they hold of the same records. -/
theorem render_eq_render_iff {a b : Expr} (ha : a.IsFilled) (hb : b.IsFilled) :
    (a.render = b.render ↔ a.collapse = b.collapse) ∧
      (a.render = b.render → ∀ (ρ : Type) [Record ρ] (r : ρ), a.eval r = b.eval r) := by
  have hiff := Expr.collapse_eq_iff_render_eq ha hb
  refine ⟨hiff.symm, fun h ρ _ r => ?_⟩
  rw [← Expr.eval_collapse r a, hiff.2 h, Expr.eval_collapse]

/-- Words that end in a backslash and words with an apostrophe, in groups of one. -/
def backslashTree (k : Connective) : Expr :=
  .group .and [
    .group k [.condition ⟨"x \\", .equals, " ' \\"⟩],
    .condition ⟨"\\' =", .contains, "\\"⟩]

theorem render_eq_render_backslashTree :
    ((backslashTree .and).IsFilled ∧ (backslashTree .or).IsFilled) ∧
    ((backslashTree .and).render = (backslashTree .or).render ∧
      ∀ (ρ : Type) [Record ρ] (r : ρ),
        (backslashTree .and).eval r = (backslashTree .or).eval r) ∧
    (Expr.condition ⟨"x \\", .equals, " = "⟩).render ≠
      (Expr.condition ⟨"x ' = ", .equals, " = "⟩).render := by
  have hand : (backslashTree .and).IsFilled := by decide
  have hor : (backslashTree .or).IsFilled := by decide
  refine ⟨⟨hand, hor⟩, ?_, ?_⟩
  · have hrender := (render_eq_render_iff hand hor).1.2 (by decide)
    exact ⟨hrender, (render_eq_render_iff hand hor).2 hrender⟩
  · intro h
    have hiff := render_eq_render_iff (a := .condition ⟨"x \\", .equals, " = "⟩)
      (b := .condition ⟨"x ' = ", .equals, " = "⟩) (by decide) (by decide)
    exact absurd (hiff.1.1 h) (by decide)

end RecordFilter
