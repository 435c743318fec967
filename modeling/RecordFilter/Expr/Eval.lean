import RecordFilter.Expr.Basic
import RecordFilter.Record
import RecordFilter.Text.Lowercase

/-!
# Checking a record

A condition compares the lower case of what the record holds with the lower case of its value. An
`and` group holds if every child does; an `or` group holds if some child does, or if it has none.
-/

namespace RecordFilter

/-- Whether `part` stands somewhere in `whole`. -/
def isInfix (part : List Char) : (whole : List Char) → Bool
  | [] => part.isEmpty
  | c :: rest => part.isPrefixOf (c :: rest) || isInfix part rest

theorem isInfix_iff {part whole : List Char} : isInfix part whole = true ↔ part <:+: whole := by
  induction whole with
  | nil => simp [isInfix]
  | cons c rest ih => simp [isInfix, ih, List.infix_cons_iff]

/-- How the operator compares what is there with what is asked for, both in lower case. -/
def Operator.holds : Operator → (actual wanted : List Char) → Bool
  | .equals, actual, wanted => actual == wanted
  | .contains, actual, wanted => isInfix wanted actual

/-- Whether the condition holds of the record. -/
def Condition.eval {ρ : Type} [Record ρ] (r : ρ) (c : Condition) : Bool :=
  c.operator.holds (lowercaseChars (Record.read r c.field).toList)
    (lowercaseChars c.value.toList)

namespace Expr

variable {ρ : Type} [Record ρ]

mutual

/-- Whether the record passes the filter. -/
def eval (r : ρ) : Expr → Bool
  | .condition c => c.eval r
  | .group .and children => evalAll r children
  | .group .or children => children.isEmpty || evalAny r children

/-- Whether the record passes every one of the filters. -/
def evalAll (r : ρ) : List Expr → Bool
  | [] => true
  | e :: rest => e.eval r && evalAll r rest

/-- Whether the record passes one of the filters. -/
def evalAny (r : ρ) : List Expr → Bool
  | [] => false
  | e :: rest => e.eval r || evalAny r rest

end

theorem evalAll_eq_all (r : ρ) (es : List Expr) : evalAll r es = es.all (eval r) := by
  induction es with
  | nil => rfl
  | cons e rest ih => simp [evalAll, ih]

theorem evalAny_eq_any (r : ρ) (es : List Expr) : evalAny r es = es.any (eval r) := by
  induction es with
  | nil => rfl
  | cons e rest ih => simp [evalAny, ih]

@[simp] theorem eval_vacuous (r : ρ) : vacuous.eval r = true := rfl

end Expr

/-- The places, counted from zero, of the records that pass the filter, in order. -/
def matchingIndices {ρ : Type} [Record ρ] (e : Expr) (records : List ρ) : List Nat :=
  (records.zipIdx.filter fun (r, _) => e.eval r).map Prod.snd

end RecordFilter
