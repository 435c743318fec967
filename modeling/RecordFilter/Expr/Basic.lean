/-!
# Expressions

A filter is a tree: comparisons of one field with one value at the leaves, groups that join their
children by `and` or by `or` above them. A tree built by hand may hold groups of any size. A group
with no child is *vacuous* and stands for no restriction, whichever connective it has. A group
with one child means what the child means; `Expr.join` never builds one.
-/

namespace RecordFilter

/-- How a field is compared with a value. -/
inductive Operator where
  /-- The field is the value. -/
  | equals
  /-- The field holds the value somewhere. -/
  | contains
deriving DecidableEq, Repr

namespace Operator

/-- How the operator is written. -/
def symbol : Operator → String
  | .equals => "="
  | .contains => "~"

/-- The operator written as `symbol`. -/
def ofSymbol? (symbol : String) : Option Operator :=
  if symbol = "=" then some .equals
  else if symbol = "~" then some .contains
  else none

@[simp] theorem ofSymbol?_symbol (o : Operator) : ofSymbol? o.symbol = some o := by
  cases o <;> decide

theorem ofSymbol?_eq_some_iff {s : String} {o : Operator} :
    ofSymbol? s = some o ↔ s = o.symbol := by
  constructor
  · intro h
    simp only [ofSymbol?] at h
    split at h
    · cases h
      assumption
    · split at h
      · cases h
        assumption
      · cases h
  · rintro rfl
    exact ofSymbol?_symbol o

end Operator

/-- A comparison of one field with one value. -/
structure Condition where
  field : String
  operator : Operator
  value : String
deriving DecidableEq, Repr

/-- How a group joins its children. -/
inductive Connective where
  | and
  | or
deriving DecidableEq, Repr

/-- A filter as a tree. -/
inductive Expr where
  | condition (c : Condition)
  | group (connective : Connective) (children : List Expr)
deriving Repr

namespace Expr

/-- The filter that restricts nothing, as it is read from an empty text. -/
def vacuous : Expr :=
  .group .or []

/-- Whether the tree is a group with no child. -/
def isVacuous : Expr → Bool
  | .condition _ => false
  | .group _ children => children.isEmpty

/-- A group of `children`, or the child itself if there is just one. -/
def join (connective : Connective) : List Expr → Expr
  | [child] => child
  | children => .group connective children

mutual

/-- The conditions of the tree, from left to right. -/
def conditions : Expr → List Condition
  | .condition c => [c]
  | .group _ children => conditionsOfAll children

/-- The conditions of several trees, from left to right. -/
def conditionsOfAll : List Expr → List Condition
  | [] => []
  | e :: rest => e.conditions ++ conditionsOfAll rest

end

/-- How many conditions the tree has. -/
def conditionCount (e : Expr) : Nat :=
  e.conditions.length

mutual

/-- Equality of trees is decided child by child. -/
def decEq : (a b : Expr) → Decidable (a = b)
  | .condition c, .condition d => decidable_of_iff (c = d) (by simp)
  | .group c as, .group d bs =>
    match decEqAll as bs with
    | isTrue h => decidable_of_iff (c = d) (by simp [h])
    | isFalse h => isFalse (by simp [h])
  | .condition _, .group _ _ => isFalse (by simp)
  | .group _ _, .condition _ => isFalse (by simp)

/-- Equality of lists of trees. -/
def decEqAll : (as bs : List Expr) → Decidable (as = bs)
  | [], [] => isTrue rfl
  | a :: as, b :: bs =>
    match a.decEq b, decEqAll as bs with
    | isTrue h, isTrue hs => isTrue (by rw [h, hs])
    | isFalse h, _ => isFalse (by simp [h])
    | _, isFalse h => isFalse (by simp [h])
  | [], _ :: _ => isFalse (by simp)
  | _ :: _, [] => isFalse (by simp)

end

instance : DecidableEq Expr := decEq

@[simp] theorem isVacuous_vacuous : vacuous.isVacuous = true := rfl

@[simp] theorem isVacuous_condition (c : Condition) : (condition c).isVacuous = false := rfl

@[simp] theorem isVacuous_group (c : Connective) (es : List Expr) :
    (group c es).isVacuous = es.isEmpty := rfl

@[simp] theorem join_nil (c : Connective) : join c [] = group c [] := rfl

@[simp] theorem join_singleton (c : Connective) (e : Expr) : join c [e] = e := rfl

@[simp] theorem join_cons_cons (c : Connective) (a b : Expr) (es : List Expr) :
    join c (a :: b :: es) = group c (a :: b :: es) := rfl

theorem conditionsOfAll_eq_flatMap (es : List Expr) :
    conditionsOfAll es = es.flatMap conditions := by
  induction es with
  | nil => rfl
  | cons e rest ih => simp [conditionsOfAll, ih]

@[simp] theorem conditions_join (c : Connective) (es : List Expr) :
    (join c es).conditions = conditionsOfAll es := by
  match es with
  | [] => rfl
  | [e] => simp [conditionsOfAll]
  | a :: b :: rest => rfl

end Expr

end RecordFilter
