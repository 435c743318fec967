import RecordFilter.Proofs.OutsideQuotes
import RecordFilter.Proofs.ReadTrees
import RecordFilter.Proofs.RoundTrip

/-!
# Canonical forms as filter texts

The canonical form of a tree is a filter text of its own. It is read back as the tree, its groups
of one replaced by their children, if that tree has at most `maxDepth` groups one inside the other;
otherwise it is refused at the first parenthesis that nests too deep.

A canonical form may nest deeper than the text that its tree was read from: it has parentheses
around every group, while in the text a group of terms joined by `and` may stand in a group joined
by `or` with none (`alternating`).
-/

namespace RecordFilter

/-! ## A text whose canonical form nests deeper -/

/-- A text in which parentheses nest `n` deep, each pair in a conjunction in a disjunction. -/
def alternating : (n : Nat) → List Char
  | 0 => "a = b and a = b".toList
  | n + 1 => "a = b and (".toList ++ alternating n ++ ") or a = b".toList

/-- The tree of the text `alternating n`. -/
def alternatingTree : (n : Nat) → Expr
  | 0 => .group .and [.condition ⟨"a", .equals, "b"⟩, .condition ⟨"a", .equals, "b"⟩]
  | n + 1 => .group .or [.group .and [.condition ⟨"a", .equals, "b"⟩, alternatingTree n],
      .condition ⟨"a", .equals, "b"⟩]

theorem isBranching_alternatingTree (n : Nat) : (alternatingTree n).IsBranching := by
  induction n with
  | zero => decide
  | succ n ih => simp [alternatingTree, Expr.isBranching_group, ih]

theorem isApostropheFree_alternatingTree (n : Nat) : (alternatingTree n).IsApostropheFree := by
  have hleaf : (⟨"a", .equals, "b"⟩ : Condition).IsApostropheFree := by decide
  induction n with
  | zero => decide
  | succ n ih =>
    simp [alternatingTree, Expr.isApostropheFree_group, Expr.isApostropheFree_condition, hleaf, ih]

/-- The canonical form has two pairs of parentheses where the text has one. -/
theorem nesting_alternatingTree (n : Nat) : (alternatingTree n).nesting = 2 * n + 1 := by
  induction n with
  | zero => rfl
  | succ n ih =>
    simp only [alternatingTree, Expr.nesting, Expr.nestingOfAll, ih]
    omega

theorem maxDepth_lt_nesting_alternatingTree {n : Nat} (h : 32 ≤ n) :
    maxDepth < (alternatingTree n).nesting := by
  rw [nesting_alternatingTree, maxDepth]
  omega

/-! ## Canonical forms of trees -/

section Outcomes

variable (mode : ParseMode) {e : Expr} (h : e.IsFilled) (hap : e.IsApostropheFree)
include h hap

theorem parse_render_eq :
    parse mode e.render =
      match firstNestedInText maxDepth e.render with
      | some offset => .error (.parse (.tooDeep offset))
      | none => .ok e.collapse := by
  obtain ⟨ts, hts, hread⟩ := exists_tokenize_render hap
  have hparse : parseTokens mode ts = orTooDeep maxDepth ts e.collapse :=
    readNested_of_readAs mode h maxDepth hread
  have hnested := firstNested_of_tokenize hts maxDepth
  rw [parse, hts, mapError_ok, ok_bind, hparse, orTooDeep, hnested]
  cases firstNestedInText maxDepth e.render <;> rfl

omit mode in
theorem firstNestedInText_render_eq_none_iff (limit : Nat) :
    firstNestedInText limit e.render = none ↔ e.collapse.nesting ≤ limit := by
  obtain ⟨ts, hts, hread⟩ := exists_tokenize_render hap
  rw [← firstNested_of_tokenize hts]
  exact firstNested_eq_none_iff h hread limit

theorem parse_render_of_nesting_le (hnesting : e.collapse.nesting ≤ maxDepth) :
    parse mode e.render = .ok e.collapse := by
  have hnone := (firstNestedInText_render_eq_none_iff h hap maxDepth).2 hnesting
  rw [parse_render_eq mode h hap, hnone]

theorem parse_render_of_lt_nesting (hnesting : maxDepth < e.collapse.nesting) :
    ∃ offset, firstNestedInText maxDepth e.render = some offset ∧
      parse mode e.render = .error (.parse (.tooDeep offset)) := by
  have hsome : firstNestedInText maxDepth e.render ≠ none := by
    intro hnone
    have hle := (firstNestedInText_render_eq_none_iff h hap maxDepth).1 hnone
    omega
  obtain ⟨offset, hoffset⟩ := Option.ne_none_iff_exists'.1 hsome
  refine ⟨offset, hoffset, ?_⟩
  rw [parse_render_eq mode h hap, hoffset]

end Outcomes

/-- The canonical form of a tree with no empty group and no apostrophe is read back as the tree
without groups of one, which holds of the same records. If more than `maxDepth` groups of it stand
one inside the other, it is refused at the first parenthesis outside quotes that has `maxDepth`
unclosed ones before it. -/
theorem parse_render_of_isFilled (mode : ParseMode) {e : Expr} (h : e.IsFilled)
    (hap : e.IsApostropheFree) :
    (e.collapse.nesting ≤ maxDepth →
      parse mode e.render = .ok e.collapse ∧
        ∀ (ρ : Type) [Record ρ] (r : ρ), e.collapse.eval r = e.eval r) ∧
    (maxDepth < e.collapse.nesting →
      ∃ offset, firstNestedInText maxDepth e.render = some offset ∧
        parse mode e.render = .error (.parse (.tooDeep offset))) := by
  constructor
  · intro hnesting
    refine ⟨parse_render_of_nesting_le mode h hap hnesting, ?_⟩
    intro ρ _ r
    exact Expr.eval_collapse r e
  · intro hnesting
    exact parse_render_of_lt_nesting mode h hap hnesting

/-- Among the fields and values are keywords, parentheses, quotes and blanks. -/
def quotedTree : Expr :=
  .group .or [
    .group .and [.condition ⟨"and", .equals, "\" OR (\""⟩],
    .group .and [.condition ⟨"", .contains, "\\ ="⟩, .condition ⟨")", .equals, "\t"⟩]]

theorem parse_render_quotedTree_alternatingTree :
    (parse .strict quotedTree.render = .ok quotedTree.collapse ∧
      ∀ (ρ : Type) [Record ρ] (r : ρ), quotedTree.collapse.eval r = quotedTree.eval r) ∧
    ∃ offset, firstNestedInText maxDepth (alternatingTree 32).render = some offset ∧
      parse .strict (alternatingTree 32).render = .error (.parse (.tooDeep offset)) := by
  constructor
  · exact (parse_render_of_isFilled .strict (e := quotedTree) (by decide) (by decide)).1
      (by decide)
  · have hbranching := isBranching_alternatingTree 32
    have hdeep : maxDepth < (alternatingTree 32).collapse.nesting := by
      rw [hbranching.collapse_eq]
      exact maxDepth_lt_nesting_alternatingTree (Nat.le_refl 32)
    exact (parse_render_of_isFilled .strict hbranching.isFilled
      (isApostropheFree_alternatingTree 32)).2 hdeep

/-! ## Canonical forms of what has been read -/

theorem parse_empty (mode : ParseMode) : parse mode "" = .ok .vacuous := by
  cases mode <;> cbv

/-- The canonical form of a tree read from a filter text is read back as the tree exactly if at
most `maxDepth` groups of the tree stand one inside the other. -/
theorem parse_render_eq_ok_iff {mode : ParseMode} {input : String} {e : Expr}
    (h : parse mode input = .ok e) (hap : e.IsApostropheFree) :
    (parse mode e.render = .ok e ↔ e.nesting ≤ maxDepth) ∧
    (maxDepth < e.nesting →
      ∃ offset, firstNestedInText maxDepth e.render = some offset ∧
        parse mode e.render = .error (.parse (.tooDeep offset))) := by
  rcases isBranching_or_eq_vacuous h with hbranching | rfl
  · have hcollapse : e.collapse = e := hbranching.collapse_eq
    have hle := parse_render_of_nesting_le mode hbranching.isFilled hap
    have hlt := parse_render_of_lt_nesting mode hbranching.isFilled hap
    rw [hcollapse] at hle hlt
    refine ⟨⟨fun hok => ?_, hle⟩, hlt⟩
    by_contra hdeep
    obtain ⟨offset, -, herror⟩ := hlt (by omega)
    rw [hok] at herror
    cases herror
  · -- the empty text is its own canonical form
    have hnesting : Expr.vacuous.nesting ≤ maxDepth := by decide
    refine ⟨⟨fun _ => hnesting, fun _ => parse_empty mode⟩, fun hdeep => ?_⟩
    omega

theorem parse_ofList (mode : ParseMode) (cs : List Char) :
    parse mode (String.ofList cs) =
      (tokenizeChars cs).mapError .lex >>= fun ts => (parseTokens mode ts).mapError .parse := by
  rw [parse, tokenize, String.toList_ofList]

theorem parse_alternating_thirtyTwo :
    parse .strict (String.ofList (alternating 32)) = .ok (alternatingTree 32) := by
  rw [parse_ofList]
  decide +kernel

theorem parse_render_alternatingTree_two :
    parse .strict (alternatingTree 2).render = .ok (alternatingTree 2) ∧
    ∃ offset, firstNestedInText maxDepth (alternatingTree 32).render = some offset ∧
      parse .strict (alternatingTree 32).render = .error (.parse (.tooDeep offset)) := by
  have hparse : parse .strict (String.ofList (alternating 2)) = .ok (alternatingTree 2) := by
    rw [parse_ofList]
    decide +kernel
  have hshallow : (alternatingTree 2).nesting ≤ maxDepth := by decide
  have hdeep := maxDepth_lt_nesting_alternatingTree (Nat.le_refl 32)
  constructor
  · exact (parse_render_eq_ok_iff hparse (isApostropheFree_alternatingTree 2)).1.2 hshallow
  · exact (parse_render_eq_ok_iff parse_alternating_thirtyTwo
      (isApostropheFree_alternatingTree 32)).2 hdeep

/-- Not every accepted filter has an accepted canonical form: here parentheses nest 32 deep in the
text and 65 deep in its canonical form. -/
theorem parse_render_alternatingTree_ne :
    parse .strict (String.ofList (alternating 32)) = .ok (alternatingTree 32) ∧
      (alternatingTree 32).IsApostropheFree ∧
        parse .strict (alternatingTree 32).render ≠ .ok (alternatingTree 32) := by
  have hbranching := isBranching_alternatingTree 32
  have hap := isApostropheFree_alternatingTree 32
  have hdeep : maxDepth < (alternatingTree 32).collapse.nesting := by
    rw [hbranching.collapse_eq]
    exact maxDepth_lt_nesting_alternatingTree (Nat.le_refl 32)
  refine ⟨parse_alternating_thirtyTwo, hap, fun hok => ?_⟩
  obtain ⟨offset, -, herror⟩ :=
    parse_render_of_lt_nesting .strict hbranching.isFilled hap hdeep
  rw [hok] at herror
  cases herror

end RecordFilter
