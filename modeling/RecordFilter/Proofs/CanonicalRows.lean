import RecordFilter.Proofs.CanonicalTokens
import RecordFilter.Proofs.Reading

/-!
# The rows of tokens of a canonical form

Which rows of tokens a canonical form is read as, tree by tree: a condition is three tokens
(`readAs_condition_iff`), a group of two or more is a parenthesis, the row of its children and a
parenthesis (`readAs_group_iff`), and a row is the first child, the keyword and the rest of the row
(`readAs_row_iff`). No word is read as a parenthesis or as a keyword, so the parentheses of a
canonical form are those of its groups and are balanced.
-/

namespace RecordFilter

/-! ## The tokens of words and of rows -/

theorem token_word_text (s : String) (o : Nat) : ((Piece.word s).token o).text = s := by
  rw [Piece.token]
  split <;> rfl

/-- A word is never read as a parenthesis or as a keyword. -/
theorem token_word_plain (s : String) (o : Nat) :
    ((Piece.word s).token o).isOpening = false ∧ ((Piece.word s).token o).OpensTerm := by
  rw [Piece.token]
  cases hn : needsQuotes s with
  | true => exact ⟨rfl, rfl, rfl, rfl⟩
  | false =>
    obtain ⟨-, -, hand, hor⟩ := needsQuotes_eq_false hn
    refine ⟨Bool.eq_false_iff.2 fun h => ?_, Bool.eq_false_iff.2 fun h => ?_, hor, hand⟩
    · obtain rfl : s = "(" := (Token.isSymbol_iff.1 h).2
      exact absurd hn (by decide)
    · obtain rfl : s = ")" := (Token.isSymbol_iff.1 h).2
      exact absurd hn (by decide)

theorem readAs_cons_iff {p : Piece} {ps : List Piece} {ts : List Token} :
    ReadAs (p :: ps) ts ↔ ∃ o us, ts = p.token o :: us ∧ ReadAs ps us := by
  constructor
  · rintro (_ | ⟨ht, hus⟩)
    exact ⟨_, _, by rw [← ht], hus⟩
  · rintro ⟨o, us, rfl, hus⟩
    exact .cons (by rw [Piece.token_offset]) hus

theorem readAs_append_iff {ps qs : List Piece} {ts : List Token} :
    ReadAs (ps ++ qs) ts ↔ ∃ us vs, ts = us ++ vs ∧ ReadAs ps us ∧ ReadAs qs vs := by
  constructor
  · intro h
    exact ⟨_, _, (List.take_append_drop ps.length ts).symm,
      by simpa [ReadAs] using List.forall₂_take ps.length h,
      by simpa [ReadAs] using List.forall₂_drop ps.length h⟩
  · rintro ⟨us, vs, rfl, hus, hvs⟩
    exact List.rel_append hus hvs

theorem readAs_condition_iff {c : Condition} {ts : List Token} :
    ReadAs (Expr.condition c).pieces ts ↔ ∃ o o' o'',
      ts = [(Piece.word c.field).token o, .bare c.operator.symbol o',
        (Piece.word c.value).token o''] := by
  simp only [Expr.pieces, readAs_cons_iff]
  constructor
  · rintro ⟨o, _, rfl, o', _, rfl, o'', _, rfl, ⟨⟩⟩
    exact ⟨o, o', o'', rfl⟩
  · rintro ⟨o, o', o'', rfl⟩
    exact ⟨o, _, rfl, o', _, rfl, o'', _, rfl, .nil⟩

/-- The tokens of a group of two or more. -/
theorem readAs_group_iff {k : Connective} {a b : Expr} {es : List Expr} {ts : List Token} :
    ReadAs (Expr.group k (a :: b :: es)).pieces ts ↔ ∃ o inside o',
      ts = .bare "(" o :: (inside ++ [.bare ")" o']) ∧
        ReadAs ([Piece.keyword k].intercalate ((a :: b :: es).map Expr.pieces)) inside := by
  rw [Expr.pieces_group_cons_cons, readAs_cons_iff]
  constructor
  · rintro ⟨o, us, rfl, hus⟩
    obtain ⟨inside, vs, rfl, hinside, hvs⟩ := readAs_append_iff.1 hus
    obtain ⟨o', ws, rfl, ⟨⟩⟩ := readAs_cons_iff.1 hvs
    exact ⟨o, inside, o', rfl, hinside⟩
  · rintro ⟨o, inside, o', rfl, hinside⟩
    exact ⟨o, _, rfl, readAs_append_iff.2 ⟨inside, _, rfl, hinside,
      readAs_cons_iff.2 ⟨o', [], rfl, .nil⟩⟩⟩

/-- The tokens of a row of two or more terms: those of the first, the keyword, and the rest. -/
theorem readAs_row_iff {k : Connective} {a b : Expr} {es : List Expr} {ts : List Token} :
    ReadAs ([Piece.keyword k].intercalate ((a :: b :: es).map Expr.pieces)) ts ↔ ∃ us o vs,
      ts = us ++ .bare k.keyword o :: vs ∧ ReadAs a.pieces us ∧
        ReadAs ([Piece.keyword k].intercalate ((b :: es).map Expr.pieces)) vs := by
  rw [List.map_cons, List.map_cons, List.intercalate_cons_cons, ← List.map_cons,
    List.append_assoc, List.singleton_append, readAs_append_iff]
  constructor
  · rintro ⟨us, ws, rfl, hus, hws⟩
    obtain ⟨o, vs, rfl, hvs⟩ := readAs_cons_iff.1 hws
    exact ⟨us, o, vs, rfl, hus, hvs⟩
  · rintro ⟨us, o, vs, rfl, hus, hvs⟩
    exact ⟨us, _, rfl, hus, readAs_cons_iff.2 ⟨o, vs, rfl, hvs⟩⟩

/-! ## Parentheses of a canonical form -/

theorem isOpening_keyword (k : Connective) (o : Nat) :
    (Token.bare k.keyword o).isOpening = false := by
  cases k <;> rfl

theorem isClosing_keyword (k : Connective) (o : Nat) :
    (Token.bare k.keyword o).isClosing = false := by
  cases k <;> rfl

theorem isKeyword_and (o : Nat) : (Token.bare Connective.and.keyword o).isKeyword "and" = true := by
  have hfold : foldAscii Connective.and.keyword = foldAscii "and" := by decide
  exact Token.isKeyword_iff.2 ⟨rfl, hfold⟩

theorem isKeyword_or (o : Nat) : (Token.bare Connective.or.keyword o).isKeyword "or" = true := by
  have hfold : foldAscii Connective.or.keyword = foldAscii "or" := by decide
  exact Token.isKeyword_iff.2 ⟨rfl, hfold⟩

theorem isOpening_operator (s : Operator) (o : Nat) :
    (Token.bare s.symbol o).isOpening = false := by
  cases s <;> rfl

theorem isClosing_operator (s : Operator) (o : Nat) :
    (Token.bare s.symbol o).isClosing = false := by
  cases s <;> rfl

theorem balanced_condition {c : Condition} {ts : List Token}
    (h : ReadAs (Expr.condition c).pieces ts) : Balanced ts := by
  obtain ⟨o, o', o'', rfl⟩ := readAs_condition_iff.1 h
  obtain ⟨hfo, hfc, -⟩ := token_word_plain c.field o
  obtain ⟨hvo, hvc, -⟩ := token_word_plain c.value o''
  have hvalue : Balanced [(Piece.word c.value).token o''] := .cons hvo hvc balanced_nil
  exact .cons hfo hfc (.cons (isOpening_operator _ _) (isClosing_operator _ _) hvalue)

theorem balanced_row {k : Connective} {es : List Expr} {ts : List Token}
    (hes : ∀ e ∈ es, ∀ us, ReadAs e.pieces us → Balanced us)
    (h : ReadAs ([Piece.keyword k].intercalate (es.map Expr.pieces)) ts) : Balanced ts := by
  induction es generalizing ts with
  | nil =>
    obtain rfl : ts = [] := List.forall₂_nil_left_iff.1 h
    exact balanced_nil
  | cons a es ih =>
    cases es with
    | nil => exact hes a (by simp) ts (by simpa using h)
    | cons b es =>
      obtain ⟨us, o, vs, rfl, hus, hvs⟩ := readAs_row_iff.1 h
      have hrest := ih (fun e he => hes e (by simp [he])) hvs
      exact (hes a (by simp) us hus).append
        (hrest.cons (isOpening_keyword k o) (isClosing_keyword k o))

/-- The parentheses of a canonical form are balanced. -/
theorem balanced_of_readAs {e : Expr} {ts : List Token} (h : ReadAs e.pieces ts) :
    Balanced ts := by
  induction e using Expr.inductBySize generalizing ts with
  | condition c => exact balanced_condition h
  | empty k =>
    obtain rfl : ts = [] := List.forall₂_nil_left_iff.1 h
    exact balanced_nil
  | single k e ih =>
    rw [Expr.pieces_group_singleton] at h
    exact ih h
  | several k a b es ih =>
    obtain ⟨o, inside, o', rfl, hinside⟩ := readAs_group_iff.1 h
    exact .group rfl rfl (balanced_row (fun e he us hus => ih e he hus) hinside)

end RecordFilter
