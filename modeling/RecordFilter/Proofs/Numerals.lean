import RecordFilter.Json.Numeral

/-!
# How numerals are written

A numeral is kept as it is written, all but its exponent, which may be written with either letter
and with or without a sign. `Numeral.Spelled` says how, without a word about how numerals are read;
they are read exactly so (`Numeral.ofChars?_eq_some_iff`).
-/

namespace RecordFilter

namespace Numeral

/-- One digit or more. -/
def IsDigits (cs : List Char) : Prop :=
  cs ≠ [] ∧ ∀ c ∈ cs, c.isDigit = true

instance (cs : List Char) : Decidable (IsDigits cs) :=
  decidable_of_iff (cs ≠ [] ∧ cs.all Char.isDigit = true)
    (and_congr_right fun _ => List.all_eq_true)

/-- The digits before the point: a zero does not stand in front of others. -/
def IsWhole (cs : List Char) : Prop :=
  IsDigits cs ∧ ∀ rest, cs = '0' :: rest → rest = []

/-- How the digits after the point are written, the point included. -/
inductive FractionSpelled : List Char → List Char → Prop
  | absent : FractionSpelled [] []
  | present {digits : List Char} (h : IsDigits digits) : FractionSpelled digits ('.' :: digits)

/-- How an exponent is written. -/
inductive ExponentSpelled : Option Int → List Char → Prop
  | absent : ExponentSpelled none []
  | unsigned {e : Char} {digits : List Char} (he : e = 'e' ∨ e = 'E') (h : IsDigits digits) :
    ExponentSpelled (some (valueOfDigits digits)) (e :: digits)
  | plus {e : Char} {digits : List Char} (he : e = 'e' ∨ e = 'E') (h : IsDigits digits) :
    ExponentSpelled (some (valueOfDigits digits)) (e :: '+' :: digits)
  | minus {e : Char} {digits : List Char} (he : e = 'e' ∨ e = 'E') (h : IsDigits digits) :
    ExponentSpelled (some (-valueOfDigits digits)) (e :: '-' :: digits)

/-- How a numeral is written. -/
inductive Spelled : Numeral → List Char → Prop
  | intro {negative : Bool} {whole fraction fractionText exponentText : List Char}
    {exponent : Option Int} (hwhole : IsWhole whole)
    (hfraction : FractionSpelled fraction fractionText)
    (hexponent : ExponentSpelled exponent exponentText) :
    Spelled ⟨negative, whole, fraction, exponent⟩
      ((if negative then ['-'] else []) ++ (whole ++ (fractionText ++ exponentText)))

/-- The digits of a text end here. -/
def EndsDigits (rest : List Char) : Prop :=
  ∀ c ∈ rest.head?, c.isDigit = false

variable {n : Numeral} {cs digits rest : List Char} {exponent : Option Int}

theorem takeWhile_isDigit (h : ∀ c ∈ digits, c.isDigit = true) (hrest : EndsDigits rest) :
    (digits ++ rest).takeWhile Char.isDigit = digits := by
  rw [List.takeWhile_append_of_pos h]
  cases rest with
  | nil => simp
  | cons c rest =>
    have hc : c.isDigit = false := hrest c rfl
    simp [hc]

theorem dropWhile_isDigit (h : ∀ c ∈ digits, c.isDigit = true) (hrest : EndsDigits rest) :
    (digits ++ rest).dropWhile Char.isDigit = rest := by
  rw [List.dropWhile_append_of_pos h]
  cases rest with
  | nil => rfl
  | cons c rest =>
    have hc : c.isDigit = false := hrest c rfl
    simp [hc]

theorem endsDigits_dropWhile (cs : List Char) : EndsDigits (cs.dropWhile Char.isDigit) := by
  intro c hc
  have := List.head?_dropWhile_not Char.isDigit cs
  rw [Option.mem_def.1 hc] at this
  simpa using this

theorem mem_takeWhile_isDigit {c : Char} (hc : c ∈ cs.takeWhile Char.isDigit) : c.isDigit = true :=
  List.all_eq_true.1 List.all_takeWhile c hc

theorem ExponentSpelled.head_eq {c : Char} (h : ExponentSpelled exponent (c :: cs)) :
    c = 'e' ∨ c = 'E' := by
  cases h with
  | unsigned he _ => exact he
  | plus he _ => exact he
  | minus he _ => exact he

theorem ExponentSpelled.endsDigits (h : ExponentSpelled exponent cs) : EndsDigits cs := by
  cases cs with
  | nil => simp [EndsDigits]
  | cons c cs => rcases h.head_eq with rfl | rfl <;> simp [EndsDigits]

section Exponent

variable {e : Char}

theorem isDigits_iff :
    IsDigits digits ↔ ¬((digits.isEmpty || !digits.all Char.isDigit) = true) := by
  simp [IsDigits]

theorem readExponent?_of_not_letter (he : ¬(e = 'e' ∨ e = 'E')) (rest : List Char) :
    readExponent? (e :: rest) = none := by
  have hletter : ¬((decide (e = 'e') || decide (e = 'E')) = true) := by simpa using he
  unfold readExponent?
  exact if_neg hletter

variable (he : e = 'e' ∨ e = 'E')
include he

theorem readExponent?_plus :
    readExponent? (e :: '+' :: digits) =
      if IsDigits digits then some (some (valueOfDigits digits : Int)) else none := by
  unfold readExponent?
  simp only [isDigits_iff, ite_not]
  exact if_pos (by simpa using he)

theorem readExponent?_minus :
    readExponent? (e :: '-' :: digits) =
      if IsDigits digits then some (some (-valueOfDigits digits : Int)) else none := by
  unfold readExponent?
  simp only [isDigits_iff, ite_not]
  exact if_pos (by simpa using he)

theorem readExponent?_unsigned (hplus : ∀ rest, digits ≠ '+' :: rest)
    (hminus : ∀ rest, digits ≠ '-' :: rest) :
    readExponent? (e :: digits) =
      if IsDigits digits then some (some (valueOfDigits digits : Int)) else none := by
  have hletter : (decide (e = 'e') || decide (e = 'E')) = true := by simpa using he
  rw [readExponent?.eq_def]
  simp only [hletter, if_true, isDigits_iff, ite_not]
  rfl

end Exponent

/-- An exponent is read as it is written. -/
theorem readExponent?_eq_some_iff :
    readExponent? cs = some exponent ↔ ExponentSpelled exponent cs := by
  constructor
  · intro h
    cases cs with
    | nil =>
      cases h
      exact .absent
    | cons e rest =>
      by_cases he : e = 'e' ∨ e = 'E'
      · by_cases hplus : ∃ digits, rest = '+' :: digits
        · obtain ⟨digits, rfl⟩ := hplus
          rw [readExponent?_plus he] at h
          obtain ⟨hdigits, hexponent⟩ := Option.ite_none_right_eq_some.1 h
          cases hexponent
          exact .plus he hdigits
        · by_cases hminus : ∃ digits, rest = '-' :: digits
          · obtain ⟨digits, rfl⟩ := hminus
            rw [readExponent?_minus he] at h
            obtain ⟨hdigits, hexponent⟩ := Option.ite_none_right_eq_some.1 h
            cases hexponent
            exact .minus he hdigits
          · rw [readExponent?_unsigned he (not_exists.1 hplus) (not_exists.1 hminus)] at h
            obtain ⟨hdigits, hexponent⟩ := Option.ite_none_right_eq_some.1 h
            cases hexponent
            exact .unsigned he hdigits
      · rw [readExponent?_of_not_letter he] at h
        cases h
  · intro h
    cases h with
    | absent => rfl
    | @unsigned e digits he hdigits =>
      have hplus (rest : List Char) : digits ≠ '+' :: rest := by
        rintro rfl
        exact absurd (hdigits.2 '+' List.mem_cons_self) (by decide)
      have hminus (rest : List Char) : digits ≠ '-' :: rest := by
        rintro rfl
        exact absurd (hdigits.2 '-' List.mem_cons_self) (by decide)
      rw [readExponent?_unsigned he hplus hminus, if_pos hdigits]
    | plus he hdigits => rw [readExponent?_plus he, if_pos hdigits]
    | minus he hdigits => rw [readExponent?_minus he, if_pos hdigits]

theorem FractionSpelled.endsDigits {fraction fractionText exponentText : List Char}
    (h : FractionSpelled fraction fractionText)
    (hexponent : ExponentSpelled exponent exponentText) :
    EndsDigits (fractionText ++ exponentText) := by
  cases h with
  | absent => exact hexponent.endsDigits
  | present _ => simp [EndsDigits]

theorem readRest?_eq_some_iff {negative : Bool} {whole : List Char} :
    readRest? negative whole cs = some n ↔
      ∃ fraction exponent fractionText exponentText, cs = fractionText ++ exponentText ∧
        FractionSpelled fraction fractionText ∧ ExponentSpelled exponent exponentText ∧
        n = ⟨negative, whole, fraction, exponent⟩ := by
  constructor
  · intro h
    unfold readRest? at h
    split at h
    next rest =>
      simp only at h
      split at h
      next => cases h
      next hdigits =>
        obtain ⟨exponent, hexponent, hn⟩ := Option.bind_eq_some_iff.1 h
        cases hn
        refine ⟨_, exponent, '.' :: rest.takeWhile Char.isDigit, _, ?_, .present ⟨?_, ?_⟩,
          readExponent?_eq_some_iff.1 hexponent, rfl⟩
        · rw [List.cons_append, List.takeWhile_append_dropWhile]
        · simpa using hdigits
        · exact fun c hc => mem_takeWhile_isDigit hc
    next =>
      obtain ⟨exponent, hexponent, hn⟩ := Option.bind_eq_some_iff.1 h
      cases hn
      exact ⟨[], exponent, [], cs, rfl, .absent, readExponent?_eq_some_iff.1 hexponent, rfl⟩
  · rintro ⟨fraction, exponent, fractionText, exponentText, rfl, hfraction, hexponent, rfl⟩
    have hread := readExponent?_eq_some_iff.2 hexponent
    cases hfraction with
    | absent =>
      have hpoint (rest : List Char) : exponentText ≠ '.' :: rest := by
        rintro rfl
        exact absurd hexponent.head_eq (by decide)
      unfold readRest?
      rw [List.nil_append]
      split
      next rest => exact absurd rfl (hpoint rest)
      next => rw [hread]; rfl
    | present hdigits =>
      rw [List.cons_append, readRest?, takeWhile_isDigit hdigits.2 hexponent.endsDigits,
        dropWhile_isDigit hdigits.2 hexponent.endsDigits, hread]
      simp [hdigits.1]

theorem readUnsigned?_eq_some_iff {negative : Bool} :
    readUnsigned? negative cs = some n ↔
      ∃ whole rest, cs = whole ++ rest ∧ IsWhole whole ∧ EndsDigits rest ∧
        readRest? negative whole rest = some n := by
  constructor
  · intro h
    have hcs : cs = cs.takeWhile Char.isDigit ++ cs.dropWhile Char.isDigit :=
      List.takeWhile_append_dropWhile.symm
    have hall : ∀ c ∈ cs.takeWhile Char.isDigit, c.isDigit = true :=
      fun c hc => mem_takeWhile_isDigit hc
    unfold readUnsigned? at h
    split at h
    next => cases h
    next => cases h
    next hempty hzero =>
      refine ⟨_, _, hcs, ⟨⟨hempty, hall⟩, ?_⟩, endsDigits_dropWhile cs, h⟩
      intro rest hrest
      cases rest with
      | nil => rfl
      | cons d rest => exact absurd hrest (hzero d rest)
  · rintro ⟨whole, rest, rfl, ⟨⟨hempty, hall⟩, hzero⟩, hends, hread⟩
    unfold readUnsigned?
    rw [takeWhile_isDigit hall hends, dropWhile_isDigit hall hends]
    split
    next => exact absurd rfl hempty
    next d rest => cases hzero _ rfl
    next => exact hread

theorem ofChars?_eq_some_iff : ofChars? cs = some n ↔ n.Spelled cs := by
  constructor
  · intro h
    unfold ofChars? at h
    have hspelled {negative : Bool} {cs : List Char} (h : readUnsigned? negative cs = some n) :
        n.Spelled ((if negative then ['-'] else []) ++ cs) := by
      obtain ⟨whole, rest, rfl, hwhole, -, hrest⟩ := readUnsigned?_eq_some_iff.1 h
      obtain ⟨_, _, _, _, rfl, hfraction, hexponent, rfl⟩ := readRest?_eq_some_iff.1 hrest
      exact .intro hwhole hfraction hexponent
    split at h
    next cs => exact hspelled h
    next => exact hspelled h
  · intro h
    cases h with
    | @intro negative whole fraction fractionText exponentText exponent hwhole hfraction
        hexponent =>
      have hrest : readRest? negative whole (fractionText ++ exponentText) =
          some ⟨negative, whole, fraction, exponent⟩ :=
        readRest?_eq_some_iff.2 ⟨_, _, _, _, rfl, hfraction, hexponent, rfl⟩
      have hread : readUnsigned? negative (whole ++ (fractionText ++ exponentText)) =
          some ⟨negative, whole, fraction, exponent⟩ :=
        readUnsigned?_eq_some_iff.2
          ⟨_, _, rfl, hwhole, hfraction.endsDigits hexponent, hrest⟩
      cases negative with
      | true => exact hread
      | false =>
        rw [if_neg Bool.false_ne_true, List.nil_append]
        unfold ofChars?
        split
        next cs hcs =>
          obtain ⟨⟨hempty, hall⟩, -⟩ := hwhole
          obtain ⟨d, ds, rfl⟩ := List.exists_cons_of_ne_nil hempty
          cases hcs
          exact absurd (hall '-' List.mem_cons_self) (by decide)
        next => exact hread

/-- A numeral is the plain text of a natural number if there are digits only. -/
theorem toNat?_eq_some_iff {k : Nat} :
    n.toNat? = some k ↔ ∃ whole, n = ⟨false, whole, [], none⟩ ∧ valueOfDigits whole = k := by
  obtain ⟨negative, whole, fraction, exponent⟩ := n
  cases negative <;> cases fraction <;> cases exponent <;> simp [toNat?]

/-- The characters that occur in numerals. -/
def MayOccur (c : Char) : Prop :=
  c.isDigit = true ∨ c ∈ ['-', '+', '.', 'e', 'E']

instance (c : Char) : Decidable (MayOccur c) :=
  inferInstanceAs (Decidable (_ ∨ _))

theorem IsDigits.mayOccur (h : IsDigits digits) : ∀ c ∈ digits, MayOccur c :=
  fun c hc => .inl (h.2 c hc)

theorem FractionSpelled.mayOccur {fraction : List Char} (h : FractionSpelled fraction cs) :
    ∀ c ∈ cs, MayOccur c := by
  cases h with
  | absent => simp
  | present hdigits => exact List.forall_mem_cons.2 ⟨by decide, hdigits.mayOccur⟩

theorem ExponentSpelled.mayOccur (h : ExponentSpelled exponent cs) : ∀ c ∈ cs, MayOccur c := by
  have hletter {e : Char} (he : e = 'e' ∨ e = 'E') : MayOccur e := by
    rcases he with rfl | rfl <;> decide
  have hsigned {sign : Char} {digits : List Char} (hsign : MayOccur sign)
      (hdigits : IsDigits digits) : ∀ c ∈ sign :: digits, MayOccur c :=
    List.forall_mem_cons.2 ⟨hsign, hdigits.mayOccur⟩
  cases h with
  | absent => simp
  | unsigned he hdigits => exact List.forall_mem_cons.2 ⟨hletter he, hdigits.mayOccur⟩
  | plus he hdigits =>
    exact List.forall_mem_cons.2 ⟨hletter he, hsigned (by decide) hdigits⟩
  | minus he hdigits =>
    exact List.forall_mem_cons.2 ⟨hletter he, hsigned (by decide) hdigits⟩

theorem Spelled.mayOccur (h : n.Spelled cs) : ∀ c ∈ cs, MayOccur c := by
  cases h with
  | @intro negative _ _ _ _ _ hwhole hfraction hexponent =>
    have hsign : ∀ c ∈ (if negative then ['-'] else []), MayOccur c := by
      cases negative
      · simp
      · exact List.forall_mem_singleton.2 (by decide)
    simp only [List.forall_mem_append]
    exact ⟨hsign, hwhole.1.mayOccur, hfraction.mayOccur, hexponent.mayOccur⟩

theorem Spelled.ne_nil (h : n.Spelled cs) : cs ≠ [] := by
  cases h with
  | intro hwhole _ _ => simp [hwhole.1.1]

end Numeral

end RecordFilter
