import Mathlib.Data.List.Forall2
import RecordFilter.Json.Basic
import RecordFilter.Proofs.LowercaseForms
import RecordFilter.Proofs.Tree

/-!
# Filters do not see case

What a filter says of a record does not change with the case of the values on either side
(`eval_recased`), where letters of ASCII may be in any case, or a whole value in lower case
(`Recased`). Other changes of case are another matter: `ß` has the capital `SS`, whose lower case is
`ss`.

A condition compares lower cases only, so all there is to a text is its lower case
(`Recased.lowercaseChars_eq`). Which fields there are and how the tree is built stays as it is
(`Record.Recased`, `Expr.Recased`).
-/

namespace RecordFilter

/-- The text `s'` is `s` with some letters of ASCII in the other case, or `s` in lower case. -/
inductive Recased (s : String) : (s' : String) → Prop
  | ascii {s' : String} (h : foldAscii s' = foldAscii s) : Recased s s'
  | lowercase : Recased s (lowercase s)

/-- The records have the same fields, and those of `r'` are those of `r` in another case. -/
def Record.Recased {ρ ρ' : Type} [Record ρ] [Record ρ'] (r : ρ) (r' : ρ') : Prop :=
  ∀ field, Option.Rel RecordFilter.Recased (Record.field? r field) (Record.field? r' field)

/-- The trees differ in the case of values only. -/
inductive Expr.Recased : (e e' : Expr) → Prop
  | condition {field : String} {operator : Operator} {value value' : String}
    (h : RecordFilter.Recased value value') :
    Recased (.condition ⟨field, operator, value⟩) (.condition ⟨field, operator, value'⟩)
  | group {k : Connective} {es es' : List Expr} (h : List.Forall₂ Recased es es') :
    Recased (.group k es) (.group k es')

/-! ## Texts -/

theorem Recased.refl (s : String) : Recased s s :=
  .ascii rfl

/-- A text in another case has the same lower case. -/
theorem Recased.lowercaseChars_eq {s s' : String} (h : Recased s s') :
    lowercaseChars s'.toList = lowercaseChars s.toList := by
  cases h with
  | ascii h =>
    calc lowercaseChars s'.toList
      _ = lowercaseChars (foldAscii s') := (lowercaseChars_map_toLower _).symm
      _ = lowercaseChars (foldAscii s) := by rw [h]
      _ = lowercaseChars s.toList := lowercaseChars_map_toLower _
  | lowercase =>
    rw [RecordFilter.lowercase, String.toList_ofList, lowercaseChars_lowercaseChars]

/-! ## Conditions and trees -/

section Eval

variable {ρ ρ' : Type} [Record ρ] [Record ρ'] {r : ρ} {r' : ρ'}

/-- A field that neither record has reads as the empty text in both. -/
theorem Record.Recased.read (h : Record.Recased r r') (field : String) :
    RecordFilter.Recased (Record.read r field) (Record.read r' field) := by
  have hgetD {o o' : Option String} (ho : Option.Rel RecordFilter.Recased o o') :
      RecordFilter.Recased (o.getD "") (o'.getD "") := by
    cases ho with
    | some hvalue => exact hvalue
    | none => exact .refl ""
  exact hgetD (h field)

theorem Condition.eval_of_recased (hr : Record.Recased r r') (field : String) (operator : Operator)
    {value value' : String} (hvalue : RecordFilter.Recased value value') :
    Condition.eval r' ⟨field, operator, value'⟩ = Condition.eval r ⟨field, operator, value⟩ := by
  rw [Condition.eval, Condition.eval, (hr.read field).lowercaseChars_eq, hvalue.lowercaseChars_eq]

theorem map_eval_of_recased {es es' : List Expr} (h : List.Forall₂ Expr.Recased es es')
    (heval : ∀ e ∈ es, ∀ e', e.Recased e' → e'.eval r' = e.eval r) :
    es'.map (Expr.eval r') = es.map (Expr.eval r) := by
  induction h with
  | nil => rfl
  | cons hhead _ ih =>
    obtain ⟨hfirst, hrest⟩ := List.forall_mem_cons.1 heval
    rw [List.map_cons, List.map_cons, hfirst _ hhead, ih hrest]

/-- The case of the values in a filter and in a record does not matter. -/
theorem eval_recased {e e' : Expr} (he : e.Recased e') (hr : Record.Recased r r') :
    e'.eval r' = e.eval r := by
  induction e generalizing e' with
  | condition c =>
    cases he with
    | condition hvalue => exact Condition.eval_of_recased hr _ _ hvalue
  | group k es ih =>
    cases he with
    | group hes =>
      exact Expr.eval_group_congr (map_eval_of_recased hes fun e he e' h => ih e he h) k

end Eval

/-- A word that ends in a capital sigma is in lower case on one side, and as it was on the other. In
a record with another name it is found on neither side. -/
theorem eval_recased_sigma :
    let r : JsonRecord := ⟨[("name", .string "ΟΔΥΣΣΕΥΣ of Ithaca")]⟩
    let r' : JsonRecord := ⟨[("name", .string "οδυσσευς of ithaca")]⟩
    let e : Expr := .group .or
      [.condition ⟨"city", .equals, "Troy"⟩, .condition ⟨"name", .contains, "ΟΔΥΣΣΕΥΣ of"⟩]
    let e' : Expr := .group .or
      [.condition ⟨"city", .equals, "troy"⟩, .condition ⟨"name", .contains, "ΟΔΥΣΣΕΥΣ oF"⟩]
    let other : JsonRecord := ⟨[("name", .string "PENELOPE")]⟩
    let other' : JsonRecord := ⟨[("name", .string "Penelope")]⟩
    e.Recased e' ∧ (Record.Recased r r' ∧ e'.eval r' = e.eval r ∧ e.eval r = true) ∧
    Record.Recased other other' ∧ e'.eval other' = e.eval other ∧ e.eval other = false := by
  intro r r' e e' other other'
  have htroy : Recased "Troy" "troy" := .ascii (by decide)
  have hword : Recased "ΟΔΥΣΣΕΥΣ of" "ΟΔΥΣΣΕΥΣ oF" := .ascii (by decide)
  have he : e.Recased e' := .group (.cons (.condition htroy) (.cons (.condition hword) .nil))
  have hname : Recased "ΟΔΥΣΣΕΥΣ of Ithaca" "οδυσσευς of ithaca" := by
    have hlower : lowercase "ΟΔΥΣΣΕΥΣ of Ithaca" = "οδυσσευς of ithaca" := by decide +kernel
    rw [← hlower]
    exact .lowercase
  have hrecord {s s' : String} (hs : Recased s s') :
      Record.Recased (⟨[("name", .string s)]⟩ : JsonRecord)
        (⟨[("name", .string s')]⟩ : JsonRecord) := by
    intro field
    by_cases hfield : "name" = field
    · subst hfield
      exact .some hs
    · have hnone (s : String) :
          Record.field? (⟨[("name", .string s)]⟩ : JsonRecord) field = none := by
        simp [Record.field?, Json.lookup?, hfield]
      rw [hnone, hnone]
      exact .none
  have hr : Record.Recased r r' := hrecord hname
  have hother : Record.Recased other other' := hrecord (.ascii (by decide))
  exact ⟨he, ⟨hr, eval_recased he hr, by decide +kernel⟩,
    hother, eval_recased he hother, by decide +kernel⟩

end RecordFilter
