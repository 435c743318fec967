import Mathlib.Data.List.Chain
import Mathlib.Data.List.Forall2
import RecordFilter.Proofs.ScanRun
import RecordFilter.Proofs.Tree

/-!
# The pieces of a canonical form

A canonical form is a row of pieces: the parentheses of its groups, the keywords and operators with
the spaces around them, and the words, which are its fields and values. `render_toList` says so.
Two words never stand side by side (`separated_pieces`), so a bare word is always followed by a
space, by a parenthesis or by nothing, and each piece is read back as one token, the one that
`Piece.token` names.
-/

namespace RecordFilter

/-- A part of a canonical form that is read as one token. -/
inductive Piece where
  | opening
  | closing
  | keyword (k : Connective)
  | operator (o : Operator)
  /-- A field or a value. -/
  | word (s : String)

namespace Piece

/-- The characters of the piece, the spaces around it included. -/
def chars : Piece → List Char
  | .opening => ['(']
  | .closing => [')']
  | .keyword k => [' '] ++ k.keyword.toList ++ [' ']
  | .operator o => [' '] ++ o.symbol.toList ++ [' ']
  | .word s => (quoteIfNeeded s).toList

/-- The token as which the piece is read, if it begins at `offset`. -/
def token : Piece → (offset : Nat) → Token
  | .opening, offset => .bare "(" offset
  | .closing, offset => .bare ")" offset
  | .keyword k, offset => .bare k.keyword offset
  | .operator o, offset => .bare o.symbol offset
  | .word s, offset => if needsQuotes s then .quoted s '\'' offset else .bare s offset

@[simp] theorem token_offset (p : Piece) (offset : Nat) : (p.token offset).offset = offset := by
  cases p with
  | word s =>
    rw [token]
    split <;> rfl
  | _ => rfl

/-- Whether the piece is a field or a value. -/
def isWord : Piece → Bool
  | .word _ => true
  | _ => false

/-- Whether the piece is a field or a value with an apostrophe. -/
def hasApostrophe : Piece → Bool
  | .word s => s.toList.contains '\''
  | _ => false

end Piece

/-- The characters of a row of pieces. -/
def piecesChars (ps : List Piece) : List Char :=
  ps.flatMap Piece.chars

@[simp] theorem piecesChars_nil : piecesChars [] = [] := rfl

@[simp] theorem piecesChars_cons (p : Piece) (ps : List Piece) :
    piecesChars (p :: ps) = p.chars ++ piecesChars ps := rfl

@[simp] theorem piecesChars_append (ps qs : List Piece) :
    piecesChars (ps ++ qs) = piecesChars ps ++ piecesChars qs :=
  List.flatMap_append

/-- No two words stand side by side. -/
def Separated (ps : List Piece) : Prop :=
  ps.IsChain fun p q => p.isWord = false ∨ q.isWord = false

/-- The pieces of a group, given those of its children. -/
def groupPieces (k : Connective) : List (List Piece) → List Piece
  | [] => []
  | [child] => child
  | children => [.opening] ++ [Piece.keyword k].intercalate children ++ [.closing]

namespace Expr

mutual

/-- The pieces of the canonical form of a tree. -/
def pieces : Expr → List Piece
  | .condition c => [.word c.field, .operator c.operator, .word c.value]
  | .group k children => groupPieces k (piecesAll children)

/-- The pieces of the canonical forms of several trees. -/
def piecesAll : List Expr → List (List Piece)
  | [] => []
  | e :: rest => e.pieces :: piecesAll rest

end

theorem piecesAll_eq_map (es : List Expr) : piecesAll es = es.map pieces := by
  induction es with
  | nil => rfl
  | cons e rest ih => rw [piecesAll, ih, List.map_cons]

theorem pieces_group (k : Connective) (es : List Expr) :
    (group k es).pieces = groupPieces k (es.map pieces) := by
  rw [pieces, piecesAll_eq_map]

theorem pieces_group_singleton (k : Connective) (e : Expr) :
    (group k [e]).pieces = e.pieces := by
  rw [pieces_group]
  rfl

theorem pieces_group_cons_cons (k : Connective) (a b : Expr) (es : List Expr) :
    (group k (a :: b :: es)).pieces =
      .opening :: ([Piece.keyword k].intercalate ((a :: b :: es).map pieces) ++ [.closing]) := by
  rw [pieces_group]
  rfl

theorem piecesChars_intercalate (k : Connective) (pss : List (List Piece)) :
    piecesChars ([Piece.keyword k].intercalate pss) =
      (Piece.keyword k).chars.intercalate (pss.map piecesChars) := by
  induction pss with
  | nil => rfl
  | cons ps pss ih =>
    cases pss with
    | nil => simp
    | cons qs pss =>
      rw [List.intercalate_cons_cons, piecesChars_append, piecesChars_append, ih]
      simp [List.intercalate_cons_cons]

/-- A canonical form is its pieces, one after the other. -/
theorem render_toList (e : Expr) : e.render.toList = piecesChars e.pieces := by
  induction e using inductBySize with
  | condition c => simp [render, Condition.render, pieces, Piece.chars]
  | empty k => rfl
  | single k e ih =>
    rw [pieces_group_singleton, ← ih]
    rfl
  | several k a b es ih =>
    have hmap : ((a :: b :: es).map render).map String.toList =
        ((a :: b :: es).map pieces).map piecesChars := by
      rw [List.map_map, List.map_map]
      exact List.map_congr_left ih
    rw [pieces_group_cons_cons, piecesChars_cons, piecesChars_append, piecesChars_intercalate,
      ← hmap, render, renderAll_eq_map]
    simp [renderGroup, Piece.chars, String.toList_intercalate]

/-! ## No two words side by side -/

/-- A keyword, an operator or a parenthesis goes between any two rows. -/
theorem separated_mark {m : Piece} (hm : m.isWord = false) {ps qs : List Piece}
    (hp : Separated ps) (hq : Separated qs) : Separated (ps ++ m :: qs) := by
  refine List.isChain_split.2 ⟨List.isChain_append.2 ⟨hp, List.isChain_singleton m, ?_⟩, ?_⟩
  · intro p _ q hq
    obtain rfl : m = q := by simpa using hq
    exact .inr hm
  · cases qs with
    | nil => exact List.isChain_singleton m
    | cons q qs => exact List.isChain_cons_cons.2 ⟨.inl hm, hq⟩

theorem separated_intercalate (k : Connective) {pss : List (List Piece)}
    (h : ∀ ps ∈ pss, Separated ps) : Separated ([Piece.keyword k].intercalate pss) := by
  induction pss with
  | nil => exact List.isChain_nil
  | cons ps pss ih =>
    cases pss with
    | nil => simpa using h
    | cons qs pss =>
      rw [List.intercalate_cons_cons, List.append_assoc, List.singleton_append]
      exact separated_mark rfl (h ps (by simp)) (ih fun rs hrs => h rs (by simp [hrs]))

theorem separated_pieces (e : Expr) : Separated e.pieces := by
  induction e using inductBySize with
  | condition c => simp [pieces, Separated, Piece.isWord]
  | empty k => exact List.isChain_nil
  | single k e ih =>
    rw [pieces_group_singleton]
    exact ih
  | several k a b es ih =>
    have hes : ∀ ps ∈ (a :: b :: es).map pieces, Separated ps := List.forall_mem_map.2 ih
    have hclosed : Separated
        ([Piece.keyword k].intercalate ((a :: b :: es).map pieces) ++ [.closing]) :=
      separated_mark rfl (separated_intercalate k hes) List.isChain_nil
    rw [pieces_group_cons_cons]
    exact separated_mark rfl List.isChain_nil hclosed

/-! ## Apostrophes -/

theorem any_hasApostrophe_intercalate (k : Connective) (pss : List (List Piece)) :
    ([Piece.keyword k].intercalate pss).any Piece.hasApostrophe =
      pss.any (·.any Piece.hasApostrophe) := by
  induction pss with
  | nil => rfl
  | cons ps pss ih =>
    cases pss with
    | nil => simp
    | cons qs pss =>
      rw [List.intercalate_cons_cons, List.any_append, List.any_append, ih]
      simp [Piece.hasApostrophe]

theorem any_hasApostrophe_pieces_eq_false_iff {e : Expr} :
    e.pieces.any Piece.hasApostrophe = false ↔ e.IsApostropheFree := by
  induction e using inductBySize with
  | condition c =>
    simp [pieces, Piece.hasApostrophe, isApostropheFree_condition, Condition.IsApostropheFree]
  | empty k => simp [pieces_group, groupPieces, isApostropheFree_group]
  | single k e ih => simpa [pieces_group_singleton, isApostropheFree_group] using ih
  | several k a b es ih =>
    have hes : ((a :: b :: es).map pieces).any (·.any Piece.hasApostrophe) = false ↔
        (group k (a :: b :: es)).IsApostropheFree := by
      rw [isApostropheFree_group, List.any_map, List.any_eq_false]
      exact forall₂_congr fun e he => by simpa using ih e he
    rw [← hes, pieces_group_cons_cons, List.any_cons, List.any_append,
      any_hasApostrophe_intercalate]
    simp [Piece.hasApostrophe]

end Expr

end RecordFilter
