import Mathlib.Data.List.Nodup
import RecordFilter.Json.Library
import RecordFilter.Proofs.JsonSoundness
import RecordFilter.Proofs.Outcome

/-!
# What is relied on of a library for JSON

A library is relied on for what is known of it and for nothing else. Each of the propositions below
is one such assumption, and a theorem about documents takes those that it needs:

* `Library.ReadsStrictly`: which texts are documents;
* `Library.WritesCompactly`: how a value is written;
* `Library.ConvertsPlainly`: which values are truth values and natural numbers;
* `Library.FillsRecords`: which objects give a record, and which record.

None says what an error is, or how it is worded. The built-in library keeps all four.
-/

namespace RecordFilter.Json

namespace Library

variable {ε : Type}

/-- A text is a document if it is the text of a value, all numbers of the value fit doubles, and no
more than 127 arrays and objects stand one inside the other. Any other text is refused, and so is a
document whose value cannot be converted. -/
structure ReadsStrictly (lib : Library ε) : Prop where
  read_eq_ok_iff {α : Type} (of : Json → Except ε α) (text : String) (a : α) :
    lib.read of text = .ok a ↔
      ∃ j : Json, j.PartSpelled text.toList ∧ j.FitsDoubles ∧ j.depth ≤ 127 ∧ of j = .ok a

/-- A value without numbers is written in its shortest text but for the escapes of a string: these
are the short ones where there are such, and else that of a code unit, and only characters that
cannot stand for themselves have one. -/
structure WritesCompactly (lib : Library ε) : Prop where
  write_eq (j : Json) (h : j.numbers = []) : lib.write j = .ok j.write

/-- A truth value is one of the two literals, and a natural number has digits only and fits 64
bits. -/
structure ConvertsPlainly (lib : Library ε) : Prop where
  flag_eq_ok_iff (j : Json) (b : Bool) : lib.flag j = .ok b ↔ j = .bool b
  count_eq_ok_iff (j : Json) (n : Nat) :
    lib.count j = .ok n ↔
      ∃ digits, j = .number ⟨false, digits, [], none⟩ ∧ Numeral.valueOfDigits digits = n ∧
        n < Nat.pow 2 64

/-- The members, each under the key of a field, take the record from one state to the other. -/
inductive Sets {σ : Type} (fields : List (Field ε σ)) : σ → List (String × Json) → σ → Prop
  | nil (s : σ) : Sets fields s [] s
  | cons {field : Field ε σ} {j : Json} {rest : List (String × Json)} {s t u : σ}
    (hfield : field ∈ fields) (hset : field.set j s = .ok t) (hrest : Sets fields t rest u) :
    Sets fields s ((field.key, j) :: rest) u

/-- An object gives a record if its keys are keys of fields and none of them is repeated. Its
members set their fields, and the other fields keep their defaults. -/
structure FillsRecords (lib : Library ε) : Prop where
  record_object_eq_ok_iff {σ : Type} (fields : List (Field ε σ))
    (hkeys : (fields.map Field.key).Nodup) (default s : σ) (members : List (String × Json)) :
    lib.record fields default (.object members) = .ok s ↔
      (members.map Prod.fst).Nodup ∧ Sets fields default members s

section Sets

variable {σ : Type} {fields : List (Field ε σ)} {s t u : σ} {key : String} {j : Json}
  {rest : List (String × Json)}

theorem sets_nil_iff : Sets fields s [] t ↔ t = s := by
  constructor
  · rintro ⟨⟩
    rfl
  · rintro rfl
    exact .nil t

theorem sets_cons_iff :
    Sets fields s ((key, j) :: rest) u ↔
      ∃ field ∈ fields, field.key = key ∧ ∃ t, field.set j s = .ok t ∧ Sets fields t rest u := by
  constructor
  · intro h
    cases h with
    | cons hfield hset hrest => exact ⟨_, hfield, rfl, _, hset, hrest⟩
  · rintro ⟨field, hfield, rfl, t, hset, hrest⟩
    exact .cons hfield hset hrest

end Sets

/-! ## The built-in library -/

theorem builtIn_readsStrictly : builtIn.ReadsStrictly where
  read_eq_ok_iff of text a := by
    have hread : builtIn.read of text = .ok a ↔ ∃ j, read? text = some j ∧ of j = .ok a := by
      cases h : read? text <;> simp [builtIn, h]
    simp only [hread, read?_eq_some_iff, and_assoc]

theorem builtIn_writesCompactly : builtIn.WritesCompactly :=
  ⟨fun _ _ => rfl⟩

theorem toFlag_eq_ok_iff {j : Json} {b : Bool} : toFlag j = .ok b ↔ j = .bool b := by
  cases j <;> simp [toFlag]

theorem toCount_eq_ok_iff {j : Json} {n : Nat} :
    toCount j = .ok n ↔
      ∃ digits, j = .number ⟨false, digits, [], none⟩ ∧ Numeral.valueOfDigits digits = n ∧
        n < Nat.pow 2 64 := by
  constructor
  · intro h
    cases j with
    | number m =>
      simp only [toCount] at h
      split at h
      next k hk =>
        split_ifs at h with hlimit
        cases h
        obtain ⟨digits, rfl, rfl⟩ := Numeral.toNat?_eq_some_iff.1 hk
        exact ⟨digits, rfl, rfl, hlimit⟩
      next => cases h
    | _ => cases h
  · rintro ⟨digits, rfl, rfl, hlimit⟩
    rw [toCount, Numeral.toNat?_eq_some_iff.2 ⟨digits, rfl, rfl⟩]
    exact if_pos hlimit

theorem builtIn_convertsPlainly : builtIn.ConvertsPlainly where
  flag_eq_ok_iff _ _ := toFlag_eq_ok_iff
  count_eq_ok_iff _ _ := toCount_eq_ok_iff

section Records

variable {σ : Type} {fields : List (Field Complaint σ)} {key : String}

/-- Of several fields with different keys the one that is found is the only one with its key. -/
theorem eq_found_iff {field : Field Complaint σ} (hkeys : (fields.map Field.key).Nodup)
    (hfound : fields.find? (·.key == key) = some field) (other : Field Complaint σ) :
    other ∈ fields ∧ other.key = key ↔ other = field := by
  have hfield : field ∈ fields := List.mem_of_find?_eq_some hfound
  have hkey : field.key = key := by simpa using List.find?_some hfound
  constructor
  · rintro ⟨hother, hotherKey⟩
    exact List.inj_on_of_nodup_map hkeys hother hfield (hotherKey.trans hkey.symm)
  · rintro rfl
    exact ⟨hfield, hkey⟩

theorem setMembers_eq_ok_iff (hkeys : (fields.map Field.key).Nodup) {s t : σ}
    {members : List (String × Json)} :
    setMembers fields s members = .ok t ↔
      (members.map Prod.fst).Nodup ∧ Sets fields s members t := by
  induction members generalizing s with
  | nil => simp [setMembers, sets_nil_iff, eq_comm]
  | cons m rest ih =>
    obtain ⟨key, j⟩ := m
    rw [setMembers, sets_cons_iff, List.map_cons, List.nodup_cons]
    cases hfound : fields.find? (·.key == key) with
    | none =>
      have hunknown : ∀ field ∈ fields, field.key ≠ key := by simpa using hfound
      refine iff_of_false (by simp) ?_
      rintro ⟨-, field, hfield, hkey, -⟩
      exact hunknown field hfield hkey
    | some field =>
      have honly := eq_found_iff hkeys hfound
      obtain ⟨hfield, hkey⟩ := (honly field).2 rfl
      have hrepeated : rest.any (·.1 == key) = true ↔ key ∈ rest.map Prod.fst := by
        simp [List.any_eq_true]
      simp only [hrepeated]
      split_ifs with hmem
      · exact iff_of_false (by simp) fun h => h.1.1 hmem
      · rw [bind_eq_ok_iff]
        constructor
        · rintro ⟨u, hset, hrest⟩
          obtain ⟨hnodup, hrest⟩ := ih.1 hrest
          exact ⟨⟨hmem, hnodup⟩, field, hfield, hkey, u, hset, hrest⟩
        · rintro ⟨⟨-, hnodup⟩, other, hother, hotherKey, u, hset, hrest⟩
          obtain rfl := (honly other).1 ⟨hother, hotherKey⟩
          exact ⟨u, hset, ih.2 ⟨hnodup, hrest⟩⟩

theorem builtIn_fillsRecords : builtIn.FillsRecords where
  record_object_eq_ok_iff _ hkeys _ _ _ := setMembers_eq_ok_iff hkeys

end Records

end Library

end RecordFilter.Json
