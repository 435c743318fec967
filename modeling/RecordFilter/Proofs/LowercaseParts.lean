import RecordFilter.Expr.Eval
import RecordFilter.Json.Basic

/-!
# The lower case of a part of a text

A condition asks for the lower case of its value in the lower case of a field, and both are made
from whole texts. The one character whose lower case depends on what stands around it is the capital
sigma, so a part of a text may have another lower case on its own than where it stands:
`lowercaseWithin` is the one, `lowercaseChars` the other. The two agree exactly if every capital
sigma of the part ends a word in the part where it ends one in the text (`SigmasKeepForm`), and then
the field holds the part also by what `~` makes of the two.
-/

namespace RecordFilter

/-- The lower case of a part of a text where it stands: `before` it, read backwards, and `after`
it. -/
def lowercaseWithin (before after : List Char) : List Char → List Char
  | [] => []
  | c :: rest =>
    lowercaseBetween before c (rest ++ after) ++ lowercaseWithin (c :: before) after rest

/-- Every capital sigma of the part ends a word between `before`, read backwards, and `after`
exactly if it ends one in the part alone. -/
def SigmasKeepForm (before part after : List Char) : Prop :=
  ∀ left right, part = left ++ 'Σ' :: right →
    endsWord (left.reverse ++ before) (right ++ after) = endsWord left.reverse right

/-! ## Cutting a text into parts -/

theorem lowercaseFrom_append (before part after : List Char) :
    lowercaseFrom before [] (part ++ after) =
      lowercaseWithin before after part ++ lowercaseFrom (part.reverse ++ before) [] after := by
  induction part generalizing before with
  | nil => rfl
  | cons c rest ih =>
    rw [List.cons_append, lowercaseFrom_cons, ih, lowercaseWithin]
    simp

theorem lowercaseChars_eq_lowercaseWithin (part : List Char) :
    lowercaseChars part = lowercaseWithin [] [] part := by
  have h := lowercaseFrom_append [] part []
  simpa [lowercaseChars, lowercaseFrom] using h

/-- The lower case of a text holds that of each part where it stands. -/
theorem lowercaseWithin_infix (before part after : List Char) :
    lowercaseWithin before.reverse after part <:+: lowercaseChars (before ++ part ++ after) := by
  refine ⟨lowercaseWithin [] (part ++ after) before,
    lowercaseFrom (part.reverse ++ before.reverse) [] after, ?_⟩
  rw [lowercaseChars, List.append_assoc before, lowercaseFrom_append, lowercaseFrom_append]
  simp

/-! ## Where the lower case depends on what stands around -/

/-- How many characters the lower case of a character has does not depend on where it stands. -/
theorem length_lowercaseBetween (before : List Char) (c : Char) (after : List Char) :
    (lowercaseBetween before c after).length = (lowercaseChar c).length := by
  by_cases hc : c = 'Σ'
  · have hsigma : (lowercaseChar 'Σ').length = 1 := by decide +kernel
    rw [lowercaseBetween, if_pos hc, hc, hsigma]
    rfl
  · rw [lowercaseBetween, if_neg hc]

/-- A character has the same lower case in two places unless it is a sigma that ends a word in one
of them only. -/
theorem lowercaseBetween_eq_iff {before after before' after' : List Char} {c : Char} :
    lowercaseBetween before c after = lowercaseBetween before' c after' ↔
      (c = 'Σ' → endsWord before after = endsWord before' after') := by
  by_cases hc : c = 'Σ'
  · simp only [lowercaseBetween, hc, true_imp_iff]
    cases endsWord before after <;> cases endsWord before' after' <;> decide
  · simp [lowercaseBetween, hc]

/-- A statement about all places of `x` in a list, for the first place and for those after it. -/
theorem forall_split_cons {α : Type} {P : List α → List α → Prop} {x c : α} {rest : List α} :
    (∀ left right, c :: rest = left ++ x :: right → P left right) ↔
      (c = x → P [] rest) ∧ ∀ left right, rest = left ++ x :: right → P (c :: left) right := by
  constructor
  · intro h
    exact ⟨fun hc => h [] rest (by rw [hc]; rfl),
      fun left right hrest => h (c :: left) right (by rw [hrest]; rfl)⟩
  · rintro ⟨hfirst, hlater⟩ left right hsplit
    cases left with
    | nil =>
      obtain ⟨rfl, rfl⟩ : c = x ∧ rest = right := by simpa using hsplit
      exact hfirst rfl
    | cons l left =>
      obtain ⟨rfl, hrest⟩ : c = l ∧ rest = left ++ x :: right := by simpa using hsplit
      exact hlater left right hrest

/-- A part that stands between more on both sides keeps its lower case exactly if each of its sigmas
does. -/
theorem lowercaseWithin_eq_iff {known before after part : List Char} :
    lowercaseWithin (known ++ before) after part = lowercaseWithin known [] part ↔
      ∀ left right, part = left ++ 'Σ' :: right →
        endsWord (left.reverse ++ (known ++ before)) (right ++ after) =
          endsWord (left.reverse ++ known) right := by
  induction part generalizing known with
  | nil => simp [lowercaseWithin]
  | cons c rest ih =>
    -- the two lower cases are cut at the same place, so they agree piece by piece
    have hlength : (lowercaseBetween (known ++ before) c (rest ++ after)).length =
        (lowercaseBetween known c (rest ++ [])).length := by
      rw [length_lowercaseBetween, length_lowercaseBetween]
    have hpieces : lowercaseWithin (known ++ before) after (c :: rest) =
          lowercaseWithin known [] (c :: rest) ↔
        lowercaseBetween (known ++ before) c (rest ++ after) =
          lowercaseBetween known c (rest ++ []) ∧
        lowercaseWithin (c :: known ++ before) after rest =
          lowercaseWithin (c :: known) [] rest := by
      constructor
      · intro h
        exact List.append_inj h hlength
      · rintro ⟨hfirst, hlater⟩
        rw [lowercaseWithin, lowercaseWithin, hfirst]
        exact congrArg _ hlater
    rw [hpieces, lowercaseBetween_eq_iff, ih, forall_split_cons]
    simp

/-- A part has its own lower case where it stands exactly if each of its sigmas keeps its form. -/
theorem lowercaseWithin_eq_lowercaseChars_iff {before after part : List Char} :
    lowercaseWithin before after part = lowercaseChars part ↔
      SigmasKeepForm before part after := by
  rw [lowercaseChars_eq_lowercaseWithin]
  have h : lowercaseWithin ([] ++ before) after part = lowercaseWithin [] [] part ↔ _ :=
    lowercaseWithin_eq_iff
  simpa [SigmasKeepForm] using h

/-! ## Parts whose sigmas keep their form -/

theorem SigmasKeepForm.of_notMem {before part after : List Char} (h : 'Σ' ∉ part) :
    SigmasKeepForm before part after := by
  intro left right hpart
  simp [hpart] at h

/-- What follows is looked at only if all before it is passed over. -/
theorem meetsCased_append (cs ds : List Char) :
    meetsCased (cs ++ ds) =
      if cs.all CharClass.caseIgnorable.contains then meetsCased ds else meetsCased cs := by
  induction cs with
  | nil => simp
  | cons c cs ih =>
    by_cases hc : CharClass.caseIgnorable.contains c = true
    · have hskip (es : List Char) : meetsCased (c :: es) = meetsCased es := by
        simp [meetsCased, hc]
      rw [List.cons_append, hskip, hskip, ih, List.all_cons, hc, Bool.true_and]
    · simp [meetsCased, hc]

theorem meetsCased_of_all {cs : List Char} (h : cs.all CharClass.caseIgnorable.contains = true) :
    meetsCased cs = false := by
  have happend := meetsCased_append cs []
  rw [List.append_nil, if_pos h] at happend
  exact happend

/-- A text that meets no cased character is no different from the end of the text. -/
theorem meetsCased_append_of_eq_false {ds : List Char} (h : meetsCased ds = false)
    (cs : List Char) : meetsCased (cs ++ ds) = meetsCased cs := by
  rw [meetsCased_append]
  split
  next hall => rw [h, meetsCased_of_all hall]
  next => rfl

/-- A part with no cased character on either side has whole words only. -/
theorem SigmasKeepForm.of_not_meetsCased {before part after : List Char}
    (hbefore : meetsCased before = false) (hafter : meetsCased after = false) :
    SigmasKeepForm before part after := by
  intro left right _
  rw [endsWord, endsWord, meetsCased_append_of_eq_false hbefore,
    meetsCased_append_of_eq_false hafter]

/-! ## Conditions on a part of what a field holds -/

section Conditions

variable {ρ : Type} [Record ρ] {r : ρ} {field p w s : String}

theorem eval_contains_of_sigmasKeepForm (h : Record.read r field = p ++ w ++ s)
    (hsigmas : SigmasKeepForm p.toList.reverse w.toList s.toList) :
    (Expr.condition ⟨field, .contains, w⟩).eval r = true := by
  have hpart : lowercaseWithin p.toList.reverse s.toList w.toList = lowercaseChars w.toList :=
    lowercaseWithin_eq_lowercaseChars_iff.2 hsigmas
  have hinfix := lowercaseWithin_infix p.toList w.toList s.toList
  rw [Expr.eval, Condition.eval, h]
  show isInfix (lowercaseChars w.toList) (lowercaseChars (p ++ w ++ s).toList) = true
  rw [isInfix_iff, ← hpart, String.toList_append, String.toList_append]
  exact hinfix

/-- A value without a capital sigma is found in all that holds it. -/
theorem eval_contains_of_notMem (h : Record.read r field = p ++ w ++ s) (hw : 'Σ' ∉ w.toList) :
    (Expr.condition ⟨field, .contains, w⟩).eval r = true :=
  eval_contains_of_sigmasKeepForm h (.of_notMem hw)

/-- A value is found where no word goes on beyond it. -/
theorem eval_contains_of_not_meetsCased (h : Record.read r field = p ++ w ++ s)
    (hbefore : meetsCased p.toList.reverse = false) (hafter : meetsCased s.toList = false) :
    (Expr.condition ⟨field, .contains, w⟩).eval r = true :=
  eval_contains_of_sigmasKeepForm h (.of_not_meetsCased hbefore hafter)

end Conditions

/-- A condition on a part of what a field holds is true if each capital sigma of the part ends a
word in the part where it ends one in the field. No part has the lower case of its own where it
stands unless its sigmas do so. -/
theorem eval_contains_part {ρ : Type} [Record ρ] (r : ρ) (field p w s : String)
    (h : Record.read r field = p ++ w ++ s) :
    (SigmasKeepForm p.toList.reverse w.toList s.toList →
      (Expr.condition ⟨field, .contains, w⟩).eval r = true) ∧
    (lowercaseWithin p.toList.reverse s.toList w.toList = lowercaseChars w.toList ↔
      SigmasKeepForm p.toList.reverse w.toList s.toList) :=
  ⟨eval_contains_of_sigmasKeepForm h, lowercaseWithin_eq_lowercaseChars_iff⟩

/-- A whole word that ends in a capital sigma is found in what holds it. -/
theorem eval_contains_part_word :
    let r : JsonRecord := ⟨[("name", .string "Ο ΟΔΥΣΣΕΥΣ.")]⟩
    Record.read r "name" = "Ο " ++ "ΟΔΥΣΣΕΥΣ" ++ "." ∧
    SigmasKeepForm "Ο ".toList.reverse "ΟΔΥΣΣΕΥΣ".toList ".".toList ∧
    (Expr.condition ⟨"name", .contains, "ΟΔΥΣΣΕΥΣ"⟩).eval r = true := by
  intro r
  have hread : Record.read r "name" = "Ο " ++ "ΟΔΥΣΣΕΥΣ" ++ "." := by decide +kernel
  have hsigmas : SigmasKeepForm "Ο ".toList.reverse "ΟΔΥΣΣΕΥΣ".toList ".".toList :=
    .of_not_meetsCased (by decide +kernel) (by decide +kernel)
  exact ⟨hread, hsigmas, (eval_contains_part r "name" "Ο " "ΟΔΥΣΣΕΥΣ" "." hread).1 hsigmas⟩

/-- The first letters of a word are not found in it if a capital sigma is the last of them: it ends
a word on its own, and does not where it stands. -/
theorem eval_contains_sigma :
    let r : JsonRecord := ⟨[("name", .string "ΟΔΥΣΣΕΥΣ")]⟩
    Record.read r "name" = "" ++ "ΟΔΥΣ" ++ "ΣΕΥΣ" ∧
    (Expr.condition ⟨"name", .contains, "ΟΔΥΣ"⟩).eval r = false := by
  decide +kernel

end RecordFilter
