import RecordFilter.Json.Basic
import RecordFilter.Proofs.Tree

/-!
# What a filter looks at

A filter looks at a record through its conditions, and the more of them hold the better: a record
for which all those hold that hold for another passes whatever filter the other passes
(`Expr.eval_of_conditions`). This is so although a group with no child is passed by every record,
also if it is an `or` group: whether a group has a child is not for the record to say.

A condition in turn looks at one field, and at no more of it than the lower case of its text. So
records that show the same in the fields that a filter names, be they of whatever kind, are the same
to it.
-/

namespace RecordFilter

/-- The fields that the conditions of the tree are about. -/
def Expr.fields (e : Expr) : List String :=
  e.conditions.map (·.field)

variable {ρ σ : Type} [Record ρ] [Record σ]

/-- The records show the same text for the field, case apart, where a field that a record does not
have shows the empty text. -/
def Record.ShowAlike (r : ρ) (r' : σ) (field : String) : Prop :=
  lowercase (Record.read r field) = lowercase (Record.read r' field)

variable {r : ρ} {r' : σ}

theorem Condition.eval_eq_of_showAlike {c : Condition} (h : Record.ShowAlike r r' c.field) :
    c.eval r = c.eval r' := by
  have hchars := congrArg String.toList h
  rw [lowercase, lowercase, String.toList_ofList, String.toList_ofList] at hchars
  rw [eval, eval, hchars]

namespace Expr

/-- A record for which every condition holds that holds for another passes what the other passes. -/
theorem eval_of_conditions {e : Expr}
    (h : ∀ c ∈ e.conditions, c.eval r = true → c.eval r' = true) (he : e.eval r = true) :
    e.eval r' = true := by
  induction e with
  | condition c => exact h c (List.mem_singleton.2 rfl) he
  | group k es ih =>
    have hchild (e : Expr) (hmem : e ∈ es) : e.eval r = true → e.eval r' = true :=
      ih e hmem (forall_conditions_group.1 h e hmem)
    cases k with
    | and =>
      rw [eval, evalAll_eq_all, List.all_eq_true] at he ⊢
      intro e hmem
      exact hchild e hmem (he e hmem)
    | or =>
      rw [eval, evalAny_eq_any, Bool.or_eq_true, List.any_eq_true] at he ⊢
      obtain hempty | ⟨e, hmem, hholds⟩ := he
      · exact .inl hempty
      · exact .inr ⟨e, hmem, hchild e hmem hholds⟩

/-- Records for which the same conditions hold pass the same. -/
theorem eval_congr {e : Expr} (h : ∀ c ∈ e.conditions, c.eval r = c.eval r') :
    e.eval r = e.eval r' := by
  apply Bool.eq_iff_iff.2
  constructor
  · apply eval_of_conditions
    intro c hc
    rw [h c hc]
    exact id
  · apply eval_of_conditions
    intro c hc
    rw [h c hc]
    exact id

theorem eval_eq_of_showAlike {e : Expr} (h : ∀ field ∈ e.fields, Record.ShowAlike r r' field) :
    e.eval r = e.eval r' := by
  apply eval_congr
  intro c hc
  exact Condition.eval_eq_of_showAlike (h c.field (List.mem_map_of_mem hc))

/-- The more of its conditions hold for a record, the sooner a filter is passed, and it sees nothing
of a record but the fields that it names, in lower case. -/
theorem eval_mono_local (e : Expr) (r : ρ) (r' : σ) :
    ((∀ c ∈ e.conditions, c.eval r = true → c.eval r' = true) →
      e.eval r = true → e.eval r' = true) ∧
    ((∀ field ∈ e.fields, Record.ShowAlike r r' field) → e.eval r = e.eval r') :=
  ⟨eval_of_conditions, eval_eq_of_showAlike⟩

/-- A number in a JSON object is as good as no field, and so is a name in capitals as one in small
letters. In a longer name the same part is found, and that it is another name does not hold of
either record. A record with a text in place of the number does not pass. -/
theorem eval_mono_local_number :
    let e : Expr := .group .and [.group .or [],
      .group .or [.condition ⟨"city", .equals, "Bonn"⟩, .condition ⟨"city", .contains, "L"⟩],
      .condition ⟨"zip", .equals, ""⟩]
    let r := (∅ : Std.HashMap String String).insert "city" "ULM"
    let r' : JsonRecord := ⟨[("zip", .number (.ofNat 7)), ("city", .string "ulm")]⟩
    let r'' := (∅ : Std.TreeMap String String).insert "city" "Neu-Ulm"
    let zipped : JsonRecord := ⟨[("zip", .string "7"), ("city", .string "ulm")]⟩
    (∀ field ∈ e.fields, Record.ShowAlike r r' field) ∧ e.eval r = e.eval r' ∧
    (∀ c ∈ e.conditions, c.eval r' = true → c.eval r'' = true) ∧ e.eval r'' = true ∧
    Condition.eval r' ⟨"city", .equals, "Bonn"⟩ = false ∧
    (∀ c ∈ e.conditions, c.eval zipped = true → c.eval r' = true) ∧ e.eval zipped = false := by
  intro e r r' r'' zipped
  have hcity : Record.read r "city" = "ULM" := by simp [r, Record.read, field?_hashMap]
  have hzip : Record.read r "zip" = "" := by simp [r, Record.read, field?_hashMap]
  have hcity'' : Record.read r'' "city" = "Neu-Ulm" := by simp [r'', Record.read, field?_treeMap]
  have hzip'' : Record.read r'' "zip" = "" := by simp [r'', Record.read, field?_treeMap]
  have hfields : e.fields = ["city", "city", "zip"] := rfl
  have hconditions : e.conditions =
      [⟨"city", .equals, "Bonn"⟩, ⟨"city", .contains, "L"⟩, ⟨"zip", .equals, ""⟩] := rfl
  have halike : ∀ field ∈ e.fields, Record.ShowAlike r r' field := by
    rw [hfields, List.forall_mem_cons, List.forall_mem_cons, List.forall_mem_singleton,
      Record.ShowAlike, Record.ShowAlike, hcity, hzip]
    decide +kernel
  have hbonn : Condition.eval r' ⟨"city", .equals, "Bonn"⟩ = false := by decide +kernel
  have hmore : ∀ c ∈ e.conditions, c.eval r' = true → c.eval r'' = true := by
    rw [hconditions, List.forall_mem_cons, List.forall_mem_cons, List.forall_mem_singleton]
    refine ⟨?_, ?_, ?_⟩
    · intro h
      cases hbonn.symm.trans h
    · intro _
      rw [Condition.eval, hcity'']
      decide +kernel
    · intro _
      rw [Condition.eval, hzip'']
      decide +kernel
  have hfewer : ∀ c ∈ e.conditions, c.eval zipped = true → c.eval r' = true := by
    rw [hconditions, List.forall_mem_cons, List.forall_mem_cons, List.forall_mem_singleton]
    decide +kernel
  have hpasses : e.eval r' = true := by decide +kernel
  exact ⟨halike, (eval_mono_local e r r').2 halike, hmore,
    (eval_mono_local e r' r'').1 hmore hpasses, hbonn, hfewer, by decide +kernel⟩

end Expr

end RecordFilter
