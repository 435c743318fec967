import RecordFilter.Expr.Eval
import RecordFilter.Expr.Render

/-!
# Trees: shape, depth and the groups of one

A tree built by hand may hold groups that a filter text never gives: groups with no child and
groups with one. `Expr.collapse` replaces each group of one by its child. The tree it gives is read
the same way by everything that looks at trees: it holds of the same records and has the same
canonical form.

Statement vocabulary: `Expr.IsFilled` (no group is empty), `Expr.IsBranching` (no group is empty or
has one child only), `Expr.IsApostropheFree` (no apostrophe in a field or a value) and
`Expr.nesting` (the most groups that stand one inside the other).
-/

namespace RecordFilter

/-- No field and no value of the condition has an apostrophe. -/
def Condition.IsApostropheFree (c : Condition) : Prop :=
  '\'' ∉ c.field.toList ∧ '\'' ∉ c.value.toList

instance (c : Condition) : Decidable c.IsApostropheFree :=
  inferInstanceAs (Decidable (_ ∧ _))

namespace Expr

/-- Induction over a tree, the hypothesis given for each child of a group. -/
@[elab_as_elim, induction_eliminator]
theorem induct {motive : Expr → Prop} (condition : ∀ c, motive (.condition c))
    (group : ∀ k es, (∀ e ∈ es, motive e) → motive (.group k es)) : ∀ e, motive e
  | .condition c => condition c
  | .group k es => group k es fun e _ => induct condition group e

/-- Induction over a tree, groups told apart by whether they have no child, one child or more. -/
@[elab_as_elim]
theorem inductBySize {motive : Expr → Prop} (condition : ∀ c, motive (.condition c))
    (empty : ∀ k, motive (.group k [])) (single : ∀ k e, motive e → motive (.group k [e]))
    (several : ∀ k a b es, (∀ e ∈ a :: b :: es, motive e) → motive (.group k (a :: b :: es)))
    (e : Expr) : motive e := by
  induction e with
  | condition c => exact condition c
  | group k es ih =>
    rcases es with _ | ⟨a, _ | ⟨b, es⟩⟩
    · exact empty k
    · exact single k a (ih a (by simp))
    · exact several k a b es ih

/-! ## Groups of one -/

mutual

/-- The tree with every group of one replaced by its child. -/
def collapse : Expr → Expr
  | .condition c => .condition c
  | .group k children => join k (collapseAll children)

/-- The trees with every group of one replaced by its child. -/
def collapseAll : List Expr → List Expr
  | [] => []
  | e :: rest => e.collapse :: collapseAll rest

end

theorem collapseAll_eq_map (es : List Expr) : collapseAll es = es.map collapse := by
  induction es with
  | nil => rfl
  | cons e rest ih => rw [collapseAll, ih, List.map_cons]

@[simp] theorem collapse_condition (c : Condition) :
    (condition c).collapse = .condition c := rfl

@[simp] theorem collapse_group (k : Connective) (es : List Expr) :
    (group k es).collapse = join k (es.map collapse) := by
  rw [collapse, collapseAll_eq_map]

theorem collapse_group_singleton (k : Connective) (e : Expr) :
    (group k [e]).collapse = e.collapse := by
  simp

theorem collapse_group_cons_cons (k : Connective) (a b : Expr) (es : List Expr) :
    (group k (a :: b :: es)).collapse = group k ((a :: b :: es).map collapse) := by
  simp

/-- A group, joined, means what it means as it stands. -/
theorem eval_join {ρ : Type} [Record ρ] (r : ρ) (k : Connective) (es : List Expr) :
    (join k es).eval r = (group k es).eval r := by
  match es with
  | [] => rfl
  | [e] => cases k <;> simp [eval, evalAll, evalAny]
  | _ :: _ :: _ => rfl

/-- A group looks at its children only through what they say of the record. -/
theorem eval_group_congr {ρ ρ' : Type} [Record ρ] [Record ρ'] {r : ρ} {r' : ρ'}
    {es es' : List Expr} (h : es'.map (eval r') = es.map (eval r)) (k : Connective) :
    (group k es').eval r' = (group k es).eval r := by
  have hall : es'.all (eval r') = es.all (eval r) := by
    simpa using congrArg (List.all · id) h
  have hany : es'.any (eval r') = es.any (eval r) := by
    simpa using congrArg (List.any · id) h
  have hempty : es'.isEmpty = es.isEmpty := by
    simpa using congrArg List.isEmpty h
  cases k with
  | and => rw [eval, eval, evalAll_eq_all, evalAll_eq_all, hall]
  | or => rw [eval, eval, evalAny_eq_any, evalAny_eq_any, hany, hempty]

theorem eval_collapse {ρ : Type} [Record ρ] (r : ρ) (e : Expr) :
    e.collapse.eval r = e.eval r := by
  induction e with
  | condition c => rfl
  | group k es ih =>
    have hmap : (es.map collapse).map (eval r) = es.map (eval r) := by
      rw [List.map_map]
      exact List.map_congr_left ih
    rw [collapse_group, eval_join, eval_group_congr hmap]

theorem render_collapse (e : Expr) : e.collapse.render = e.render := by
  induction e with
  | condition c => rfl
  | group k es ih =>
    rw [collapse_group, render_join, render, renderAll_eq_map, renderAll_eq_map, List.map_map]
    exact congrArg _ (List.map_congr_left ih)

/-! ## Shape -/

mutual

/-- The lists of children of all groups of a tree. -/
def childLists : Expr → List (List Expr)
  | .condition _ => []
  | .group _ children => children :: childListsOfAll children

/-- The lists of children of all groups of several trees. -/
def childListsOfAll : List Expr → List (List Expr)
  | [] => []
  | e :: rest => e.childLists ++ childListsOfAll rest

end

theorem mem_childListsOfAll {es cs : List Expr} :
    cs ∈ childListsOfAll es ↔ ∃ e ∈ es, cs ∈ e.childLists := by
  induction es with
  | nil => simp [childListsOfAll]
  | cons e rest ih => simp [childListsOfAll, ih]

/-- No group of the tree is empty. -/
def IsFilled (e : Expr) : Prop :=
  ∀ cs ∈ e.childLists, cs ≠ []

/-- Every group of the tree has two children or more. -/
def IsBranching (e : Expr) : Prop :=
  ∀ cs ∈ e.childLists, 2 ≤ cs.length

/-- No field and no value of the tree has an apostrophe. -/
def IsApostropheFree (e : Expr) : Prop :=
  ∀ c ∈ e.conditions, c.IsApostropheFree

instance (e : Expr) : Decidable e.IsFilled :=
  inferInstanceAs (Decidable (∀ cs ∈ e.childLists, cs ≠ []))

instance (e : Expr) : Decidable e.IsBranching :=
  inferInstanceAs (Decidable (∀ cs ∈ e.childLists, 2 ≤ cs.length))

instance (e : Expr) : Decidable e.IsApostropheFree :=
  inferInstanceAs (Decidable (∀ c ∈ e.conditions, c.IsApostropheFree))

theorem forall_childLists_group {P : List Expr → Prop} {k : Connective} {es : List Expr} :
    (∀ cs ∈ (group k es).childLists, P cs) ↔ P es ∧ ∀ e ∈ es, ∀ cs ∈ e.childLists, P cs := by
  simp only [childLists, List.forall_mem_cons, mem_childListsOfAll]
  constructor
  · rintro ⟨hes, hrest⟩
    exact ⟨hes, fun e he cs hcs => hrest cs ⟨e, he, hcs⟩⟩
  · rintro ⟨hes, hrest⟩
    exact ⟨hes, fun cs ⟨e, he, hcs⟩ => hrest e he cs hcs⟩

@[simp] theorem isFilled_condition (c : Condition) : (condition c).IsFilled := by
  simp [IsFilled, childLists]

theorem isFilled_group {k : Connective} {es : List Expr} :
    (group k es).IsFilled ↔ es ≠ [] ∧ ∀ e ∈ es, e.IsFilled :=
  forall_childLists_group

@[simp] theorem isBranching_condition (c : Condition) : (condition c).IsBranching := by
  simp [IsBranching, childLists]

theorem isBranching_group {k : Connective} {es : List Expr} :
    (group k es).IsBranching ↔ 2 ≤ es.length ∧ ∀ e ∈ es, e.IsBranching :=
  forall_childLists_group

theorem IsBranching.isFilled {e : Expr} (h : e.IsBranching) : e.IsFilled := by
  intro cs hcs hnil
  have hlen := h cs hcs
  simp [hnil] at hlen

theorem isApostropheFree_condition {c : Condition} :
    (condition c).IsApostropheFree ↔ c.IsApostropheFree := by
  simp [IsApostropheFree, conditions]

theorem forall_conditions_group {P : Condition → Prop} {k : Connective} {es : List Expr} :
    (∀ c ∈ (group k es).conditions, P c) ↔ ∀ e ∈ es, ∀ c ∈ e.conditions, P c := by
  simp only [conditions, conditionsOfAll_eq_flatMap, List.mem_flatMap]
  constructor
  · intro h e he c hc
    exact h c ⟨e, he, hc⟩
  · rintro h c ⟨e, he, hc⟩
    exact h e he c hc

theorem isApostropheFree_group {k : Connective} {es : List Expr} :
    (group k es).IsApostropheFree ↔ ∀ e ∈ es, e.IsApostropheFree :=
  forall_conditions_group

/-- A tree in which every group branches has no group of one to replace. -/
theorem IsBranching.collapse_eq {e : Expr} (h : e.IsBranching) : e.collapse = e := by
  induction e with
  | condition c => rfl
  | group k es ih =>
    obtain ⟨hlen, hes⟩ := isBranching_group.1 h
    have hmap : es.map collapse = es := by
      rw [List.map_congr_left fun e he => ih e he (hes e he), List.map_id']
    match es, hlen with
    | a :: b :: rest, _ => rw [collapse_group_cons_cons, hmap]

/-! ## Depth -/

mutual

/-- The most groups that stand one inside the other. -/
def nesting : Expr → Nat
  | .condition _ => 0
  | .group _ children => nestingOfAll children + 1

/-- The most groups that stand one inside the other in one of the trees. -/
def nestingOfAll : List Expr → Nat
  | [] => 0
  | e :: rest => max e.nesting (nestingOfAll rest)

end

theorem nestingOfAll_le_iff {es : List Expr} {n : Nat} :
    nestingOfAll es ≤ n ↔ ∀ e ∈ es, e.nesting ≤ n := by
  induction es with
  | nil => simp [nestingOfAll]
  | cons e rest ih => rw [nestingOfAll, Nat.max_le, ih, List.forall_mem_cons]

@[simp] theorem nesting_condition (c : Condition) : (condition c).nesting = 0 := rfl

theorem nesting_group_le_succ_iff {k : Connective} {es : List Expr} {n : Nat} :
    (group k es).nesting ≤ n + 1 ↔ ∀ e ∈ es, e.nesting ≤ n := by
  rw [nesting, Nat.add_le_add_iff_right, nestingOfAll_le_iff]

theorem nesting_group_pos (k : Connective) (es : List Expr) : 0 < (group k es).nesting := by
  rw [nesting]
  omega

end Expr

end RecordFilter
