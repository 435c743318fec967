import Mathlib.Tactic.SplitIfs
import RecordFilter.Json.Write
import RecordFilter.Proofs.JsonReading

/-!
# Written JSON

What is written for a value is one of its texts (`Json.spelled_write`). A number is kept as it is
written, so one that was made up need not be the text of a number; the values here are those whose
numbers are.
-/

namespace RecordFilter

namespace Json

theorem writeItems_eq_map (items : List Json) : writeItems items = items.map write := by
  induction items with
  | nil => rfl
  | cons j rest ih => simp [writeItems, ih]

theorem writeMembers_eq_map (members : List (String × Json)) :
    writeMembers members = members.map fun m => writeString m.1 ++ ":" ++ m.2.write := by
  induction members with
  | nil => rfl
  | cons m rest ih => simp [writeMembers, ih]

/-! ## What is written -/

theorem hexValue?_digitChar {d : Nat} (h : d < 16) : hexValue? (Nat.digitChar d) = some d := by
  have hall : ∀ d < 16, hexValue? (Nat.digitChar d) = some d := by decide
  exact hall d h

theorem unitSpelled_control {c : Char} (h : c.toNat < 0x20) :
    UnitSpelled c.toNat
      ['0', '0', Nat.digitChar (c.toNat / 16), Nat.digitChar (c.toNat % 16)] := by
  have hzero : hexValue? '0' = some 0 := by decide
  have hunit := UnitSpelled.intro hzero hzero
    (hexValue?_digitChar (d := c.toNat / 16) (by omega))
    (hexValue?_digitChar (d := c.toNat % 16) (by omega))
  have hvalue : 16 * (16 * (16 * 0 + 0) + c.toNat / 16) + c.toNat % 16 = c.toNat := by omega
  rwa [hvalue] at hunit

theorem charSpelled_escapeChar (c : Char) : CharSpelled c (escapeChar c) := by
  rw [escapeChar]
  split_ifs with hquote hslash hb hf hn hr ht hcontrol
  · subst hquote
    exact .short (by decide)
  · subst hslash
    exact .short (by decide)
  · subst hb
    exact .short (by decide)
  · subst hf
    exact .short (by decide)
  · subst hn
    exact .short (by decide)
  · subst hr
    exact .short (by decide)
  · subst ht
    exact .short (by decide)
  · exact .unit (unitSpelled_control hcontrol)
  · exact .plain hquote hslash (Nat.not_lt.1 hcontrol)

theorem stringSpelled_writeString (s : String) : StringSpelled s (writeString s).toList := by
  have hparts : List.Forall₂ CharSpelled s.toList (s.toList.map escapeChar) := by
    rw [List.forall₂_map_right_iff, List.forall₂_same]
    exact fun c _ => charSpelled_escapeChar c
  have htext : (writeString s).toList = '"' :: ((s.toList.map escapeChar).flatten ++ ['"']) := by
    simp [writeString, List.flatMap]
  rw [htext]
  exact .intro hparts

theorem Spelled.part {j : Json} {text : List Char} (h : j.Spelled text) : PartSpelled j text := by
  simpa using PartSpelled.intro areBlanks_nil areBlanks_nil h

/-- What is written for a value is one of its texts. -/
theorem spelled_write (j : Json) (hj : ∀ n ∈ j.numbers, n.Spelled n.toChars) :
    j.Spelled j.write.toList := by
  induction j with
  | null => exact .null
  | bool b =>
    cases b with
    | false => exact .false
    | true => exact .true
  | number n =>
    rw [write, String.toList_ofList]
    exact .number (hj n (by simp [numbers]))
  | string s => exact .string (stringSpelled_writeString s)
  | array items ih =>
    have hitems : List.Forall₂ PartSpelled items ((writeItems items).map String.toList) := by
      rw [writeItems_eq_map, List.map_map, List.forall₂_map_right_iff, List.forall₂_same]
      intro i hi
      exact (ih i hi fun n hn => hj n (mem_numbersOfItems.2 ⟨i, hi, hn⟩)).part
    have htext : (write (.array items)).toList =
        '[' :: ([] ++ [','].intercalate ((writeItems items).map String.toList) ++ [']']) := by
      simp [write, String.toList_intercalate]
    rw [htext]
    exact .array areBlanks_nil hitems
  | object members ih =>
    have hmembers :
        List.Forall₂ MemberSpelled members ((writeMembers members).map String.toList) := by
      rw [writeMembers_eq_map, List.map_map, List.forall₂_map_right_iff, List.forall₂_same]
      intro m hm
      have hvalue := (ih m hm fun n hn => hj n (mem_numbersOfMembers.2 ⟨m, hm, hn⟩)).part
      simpa using
        MemberSpelled.intro areBlanks_nil areBlanks_nil (stringSpelled_writeString m.1) hvalue
    have htext : (write (.object members)).toList =
        '{' :: ([] ++ [','].intercalate ((writeMembers members).map String.toList) ++ ['}']) := by
      simp [write, String.toList_intercalate]
    rw [htext]
    exact .object areBlanks_nil hmembers

end Json

end RecordFilter
