import RecordFilter.Text.Ascii
import RecordFilter.Text.Lowercase

/-!
# The lower case of a lower case

Two texts that lower case does not tell apart: a text and its lower case
(`lowercaseChars_lowercaseChars`), and a text and the same text with its ASCII capitals made small
(`lowercaseChars_map_toLower`).

For the first, lower case gives small characters only (`IsSmall`), and leaves those alone wherever
they stand. Among the characters of the table that is a fact of how its runs lie to each other:
what a run maps to is held by none (`isApartFrom_of_mem`). For the second, an ASCII letter of
either case is cased and not case-ignorable, so no sigma can tell the two cases apart.
-/

namespace RecordFilter

/-! ## Runs apart from each other -/

namespace LowercaseRun

/-- No lower-case form of the run is held by the other run: all are below it or above it, or they
are between what it holds. The comparisons are by `Nat.blt`, which is quick to evaluate. -/
def isApartFrom (r other : LowercaseRun) : Bool :=
  Nat.blt (r.target + (r.last - r.first)) other.first || Nat.blt other.last r.target ||
    (r.first == r.last || r.step == 2) && other.step == 2 && r.target % 2 != other.first % 2

theorem map?_eq_some_iff {r : LowercaseRun} {n m : Nat} :
    r.map? n = some m ↔
      r.first ≤ n ∧ n ≤ r.last ∧ (n - r.first) % r.step = 0 ∧ r.target + (n - r.first) = m := by
  simp [map?, and_assoc]

theorem map?_eq_none_of_lt {r : LowercaseRun} {n : Nat} (h : n < r.first) : r.map? n = none := by
  rw [map?, if_neg]
  omega

theorem map?_eq_none_of_isApartFrom {r other : LowercaseRun} {n m : Nat}
    (h : r.isApartFrom other = true) (hm : r.map? n = some m) : other.map? m = none := by
  obtain ⟨hfirst, hlast, hstep, rfl⟩ := map?_eq_some_iff.1 hm
  rw [Option.eq_none_iff_forall_ne_some]
  intro k hk
  obtain ⟨hfirst', hlast', hstep', -⟩ := map?_eq_some_iff.1 hk
  simp only [isApartFrom, Bool.or_eq_true, Bool.and_eq_true, Nat.blt_eq, beq_iff_eq,
    bne_iff_ne] at h
  rcases h with (hbelow | habove) | ⟨⟨hform, hother⟩, hparity⟩
  · omega
  · omega
  · rw [hother] at hstep'
    rcases hform with hsingle | heven
    · omega
    · rw [heven] at hstep
      omega

end LowercaseRun

/-- The capitals of ASCII. -/
def asciiRun : LowercaseRun :=
  ⟨0x41, 0x5A, 1, 0x61⟩

/-- The runs of all characters that lower case changes: the capitals of ASCII, the `I` with a dot
above, of whose lower case `i` is the first character, and those of the table. -/
def capitalRuns : List LowercaseRun :=
  asciiRun :: ⟨0x130, 0x130, 1, 0x69⟩ :: lowercaseRuns

theorem mem_capitalRuns {r : LowercaseRun} (h : r ∈ lowercaseRuns) : r ∈ capitalRuns :=
  List.mem_cons_of_mem _ (List.mem_cons_of_mem _ h)

theorem isApartFrom_of_mem :
    ∀ r ∈ capitalRuns, ∀ other ∈ capitalRuns, r.isApartFrom other = true := by
  have h : (capitalRuns.all fun r => capitalRuns.all r.isApartFrom) = true := by decide +kernel
  simpa only [List.all_eq_true] using h

theorem asciiRun_map?_eq_some_iff {n m : Nat} :
    asciiRun.map? n = some m ↔ 0x41 ≤ n ∧ n ≤ 0x5A ∧ n + 0x20 = m := by
  simp only [LowercaseRun.map?_eq_some_iff, asciiRun, Nat.mod_one, true_and]
  omega

/-- Making a character small is what the run of the ASCII capitals does to it. -/
theorem toLower_cases (c : Char) :
    asciiRun.map? c.toNat = none ∧ c.toLower = c ∨
      asciiRun.map? c.toNat = some c.toLower.toNat := by
  have hcapital : c.val ≥ 'A'.val ∧ c.val ≤ 'Z'.val ↔ 0x41 ≤ c.toNat ∧ c.toNat ≤ 0x5A := Iff.rfl
  by_cases h : c.val ≥ 'A'.val ∧ c.val ≤ 'Z'.val
  · right
    obtain ⟨hfirst, hlast⟩ := hcapital.1 h
    have hlower : c.toLower.toNat = (c.val + 0x20).toNat := congrArg Char.toNat (dif_pos h)
    have hsum : (c.val + 0x20).toNat = (c.toNat + 0x20) % 2 ^ 32 := UInt32.toNat_add c.val 0x20
    refine asciiRun_map?_eq_some_iff.2 ⟨hfirst, hlast, ?_⟩
    rw [hlower, hsum]
    omega
  · left
    refine ⟨Option.eq_none_iff_forall_ne_some.2 fun n hn => ?_, dif_neg h⟩
    obtain ⟨hfirst, hlast, -⟩ := asciiRun_map?_eq_some_iff.1 hn
    exact h (hcapital.2 ⟨hfirst, hlast⟩)

theorem toLower_eq_self {c : Char} (h : asciiRun.map? c.toNat = none) : c.toLower = c := by
  rcases toLower_cases c with ⟨-, hself⟩ | hmap
  · exact hself
  · rw [h] at hmap
    cases hmap

/-! ## Small characters -/

section Small

variable {c d : Char} {before after cs : List Char}

/-- No run holds the character. -/
def IsSmall (c : Char) : Prop :=
  ∀ r ∈ capitalRuns, r.map? c.toNat = none

instance (c : Char) : Decidable (IsSmall c) :=
  decidable_of_iff (capitalRuns.all (fun r => (r.map? c.toNat).isNone) = true) (by simp [IsSmall])

theorem isSmall_iff :
    IsSmall c ↔ asciiRun.map? c.toNat = none ∧ c ≠ '\u0130' ∧
      lowercaseRuns.findSome? (·.map? c.toNat) = none := by
  have hdot : (⟨0x130, 0x130, 1, 0x69⟩ : LowercaseRun).map? c.toNat = none ↔ c ≠ '\u0130' := by
    constructor
    · rintro h rfl
      exact absurd h (by decide)
    · intro h
      rw [LowercaseRun.map?, if_neg]
      rintro ⟨hfirst, hlast, -⟩
      exact h (Char.toNat_inj.1 (Nat.le_antisymm hlast hfirst))
  rw [IsSmall, capitalRuns, List.forall_mem_cons, List.forall_mem_cons, hdot,
    List.findSome?_eq_none_iff]

/-- What is no code point has the null character for its character. -/
theorem ofNat_eq_or (n : Nat) : (Char.ofNat n).toNat = n ∨ Char.ofNat n = '\x00' := by
  by_cases h : n.isValidChar
  · left
    rw [Char.ofNat, dif_pos h]
    rfl
  · right
    rw [Char.ofNat, dif_neg h]
    rfl

/-- What a run maps to is small. -/
theorem isSmall_of_map? {r : LowercaseRun} {n : Nat} (hr : r ∈ capitalRuns)
    (h : r.map? n = some d.toNat) : IsSmall d := by
  intro other hother
  exact LowercaseRun.map?_eq_none_of_isApartFrom (isApartFrom_of_mem r hr other hother) h

theorem isSmall_toLower (hc : c.toNat < 0x80) : IsSmall c.toLower := by
  rcases toLower_cases c with ⟨hascii, hself⟩ | hmap
  · -- the runs of the table are above ASCII
    have habove : ∀ r ∈ lowercaseRuns, 0x80 ≤ r.first := by decide +kernel
    rw [hself]
    refine isSmall_iff.2 ⟨hascii, ?_, List.findSome?_eq_none_iff.2 fun r hr => ?_⟩
    · rintro rfl
      exact absurd hc (by decide)
    · exact LowercaseRun.map?_eq_none_of_lt (Nat.lt_of_lt_of_le hc (habove r hr))
  · exact isSmall_of_map? List.mem_cons_self hmap

/-- The lower case of a character on its own is small. -/
theorem isSmall_of_mem_lowercaseChar (h : d ∈ lowercaseChar c) : IsSmall d := by
  by_cases hascii : c.toNat < 0x80
  · rw [lowercaseChar, if_pos hascii, List.mem_singleton] at h
    rw [h]
    exact isSmall_toLower hascii
  by_cases hdot : c = '\u0130'
  · have hletter : IsSmall 'i' := by decide +kernel
    have hmark : IsSmall '\u0307' := by decide +kernel
    rw [lowercaseChar, if_neg hascii, if_pos hdot, List.mem_cons, List.mem_singleton] at h
    rcases h with rfl | rfl
    · exact hletter
    · exact hmark
  rw [lowercaseChar, if_neg hascii, if_neg hdot] at h
  rcases htable : lowercaseRuns.findSome? (·.map? c.toNat) with _ | n
  · rw [htable, List.mem_singleton] at h
    rw [h]
    refine isSmall_iff.2 ⟨?_, hdot, htable⟩
    rcases toLower_cases c with ⟨hnone, -⟩ | hmap
    · exact hnone
    · obtain ⟨-, hlast, -⟩ := asciiRun_map?_eq_some_iff.1 hmap
      omega
  · rw [htable, List.mem_singleton] at h
    obtain ⟨r, hr, hmap⟩ := List.exists_of_findSome?_eq_some htable
    rcases ofNat_eq_or n with hnat | hnull
    · apply isSmall_of_map? (mem_capitalRuns hr)
      rw [hmap, h, hnat]
    · rw [h, hnull]
      decide +kernel

theorem isSmall_of_mem_lowercaseBetween (h : d ∈ lowercaseBetween before c after) :
    IsSmall d := by
  rw [lowercaseBetween] at h
  split at h
  · have hsigmas : IsSmall 'ς' ∧ IsSmall 'σ' := by decide +kernel
    rw [List.mem_singleton] at h
    rw [h]
    split
    · exact hsigmas.1
    · exact hsigmas.2
  · exact isSmall_of_mem_lowercaseChar h

theorem isSmall_of_mem_lowercaseFrom (h : d ∈ lowercaseFrom before [] cs) : IsSmall d := by
  induction cs generalizing before with
  | nil => simp [lowercaseFrom] at h
  | cons c after ih =>
    rw [lowercaseFrom_cons, List.mem_append] at h
    rcases h with h | h
    · exact isSmall_of_mem_lowercaseBetween h
    · exact ih h

/-- A small character is its own lower case. -/
theorem IsSmall.lowercaseChar_eq (h : IsSmall c) : lowercaseChar c = [c] := by
  obtain ⟨hascii, hdot, htable⟩ := isSmall_iff.1 h
  rw [lowercaseChar, if_neg hdot, htable, toLower_eq_self hascii]
  exact ite_self _

/-- A small character is its own lower case wherever it stands: it is no capital sigma. -/
theorem IsSmall.lowercaseBetween_eq (h : IsSmall c) : lowercaseBetween before c after = [c] := by
  have hsigma : c ≠ 'Σ' := by
    rintro rfl
    exact absurd h (by decide +kernel)
  rw [lowercaseBetween, if_neg hsigma, h.lowercaseChar_eq]

theorem lowercaseFrom_eq_self (h : ∀ c ∈ cs, IsSmall c) : lowercaseFrom before [] cs = cs := by
  induction cs generalizing before with
  | nil => rfl
  | cons c after ih =>
    obtain ⟨hc, hafter⟩ := List.forall_mem_cons.1 h
    rw [lowercaseFrom_cons, hc.lowercaseBetween_eq, ih hafter, List.singleton_append]

/-- The texts that are in lower case are those of small characters. -/
theorem lowercaseChars_eq_self_iff : lowercaseChars cs = cs ↔ ∀ c ∈ cs, IsSmall c := by
  constructor
  · intro h c hc
    rw [← h] at hc
    exact isSmall_of_mem_lowercaseFrom hc
  · exact lowercaseFrom_eq_self

theorem lowercaseChars_lowercaseChars (cs : List Char) :
    lowercaseChars (lowercaseChars cs) = lowercaseChars cs :=
  lowercaseChars_eq_self_iff.2 fun _ => isSmall_of_mem_lowercaseFrom

end Small

/-! ## Letters of ASCII in either case -/

section Ascii

theorem CharClass.contains_eq_false {k : CharClass} {c : Char} {first last : Nat}
    (hk : ∀ i ∈ k.intervals, i.2 < first ∨ last < i.1)
    (hc : first ≤ c.toNat ∧ c.toNat ≤ last) : k.contains c = false := by
  rw [Bool.eq_false_iff, ne_eq, contains_iff]
  rintro ⟨i, hi, hle⟩
  have hapart := hk i hi
  omega

theorem cased_toLower (c : Char) :
    CharClass.cased.contains c.toLower = CharClass.cased.contains c := by
  rcases toLower_cases c with ⟨-, hself⟩ | hmap
  · rw [hself]
  · obtain ⟨hfirst, hlast, hlower⟩ := asciiRun_map?_eq_some_iff.1 hmap
    have hcapital : CharClass.cased.contains c = true :=
      CharClass.contains_iff.2 ⟨(0x41, 0x5A), by decide, hfirst, hlast⟩
    have hsmall : CharClass.cased.contains c.toLower = true :=
      CharClass.contains_iff.2 ⟨(0x61, 0x7A), by decide, by omega⟩
    rw [hcapital, hsmall]

theorem caseIgnorable_toLower (c : Char) :
    CharClass.caseIgnorable.contains c.toLower = CharClass.caseIgnorable.contains c := by
  rcases toLower_cases c with ⟨-, hself⟩ | hmap
  · rw [hself]
  · obtain ⟨hfirst, hlast, hlower⟩ := asciiRun_map?_eq_some_iff.1 hmap
    have hapart : ∀ i ∈ CharClass.caseIgnorable.intervals,
        (i.2 < 0x41 ∨ 0x5A < i.1) ∧ (i.2 < 0x61 ∨ 0x7A < i.1) := by
      decide +kernel
    have hcapital : CharClass.caseIgnorable.contains c = false :=
      CharClass.contains_eq_false (fun i hi => (hapart i hi).1) ⟨hfirst, hlast⟩
    have hsmall : CharClass.caseIgnorable.contains c.toLower = false :=
      CharClass.contains_eq_false (fun i hi => (hapart i hi).2) (by omega)
    rw [hcapital, hsmall]

theorem meetsCased_cons (c : Char) (cs : List Char) :
    meetsCased (c :: cs) =
      if CharClass.caseIgnorable.contains c then meetsCased cs else CharClass.cased.contains c := by
  by_cases hc : CharClass.caseIgnorable.contains c = true
  · simp [meetsCased, hc]
  · simp [meetsCased, hc]

theorem meetsCased_map_toLower (cs : List Char) :
    meetsCased (cs.map Char.toLower) = meetsCased cs := by
  induction cs with
  | nil => rfl
  | cons c cs ih =>
    rw [List.map_cons, meetsCased_cons, meetsCased_cons, ih, cased_toLower, caseIgnorable_toLower]

theorem lowercaseChar_toLower (c : Char) : lowercaseChar c.toLower = lowercaseChar c := by
  rcases toLower_cases c with ⟨-, hself⟩ | hmap
  · rw [hself]
  · obtain ⟨-, hlast, -⟩ := asciiRun_map?_eq_some_iff.1 hmap
    have hascii : c.toNat < 0x80 := by omega
    rw [(isSmall_toLower hascii).lowercaseChar_eq, lowercaseChar, if_pos hascii]

theorem toLower_eq_sigma_iff {c : Char} : c.toLower = 'Σ' ↔ c = 'Σ' := by
  rcases toLower_cases c with ⟨-, hself⟩ | hmap
  · rw [hself]
  · obtain ⟨hfirst, hlast, hlower⟩ := asciiRun_map?_eq_some_iff.1 hmap
    have hsigma : 'Σ'.toNat = 0x3A3 := rfl
    rw [← Char.toNat_inj, ← Char.toNat_inj, hsigma]
    omega

theorem lowercaseBetween_map_toLower (before : List Char) (c : Char) (after : List Char) :
    lowercaseBetween (before.map Char.toLower) c.toLower (after.map Char.toLower) =
      lowercaseBetween before c after := by
  have hends : endsWord (before.map Char.toLower) (after.map Char.toLower) =
      endsWord before after := by
    rw [endsWord, endsWord, meetsCased_map_toLower, meetsCased_map_toLower]
  simp only [lowercaseBetween, hends, lowercaseChar_toLower, toLower_eq_sigma_iff]

theorem lowercaseFrom_map_toLower (before cs : List Char) :
    lowercaseFrom (before.map Char.toLower) [] (cs.map Char.toLower) =
      lowercaseFrom before [] cs := by
  induction cs generalizing before with
  | nil => rfl
  | cons c after ih =>
    rw [List.map_cons, lowercaseFrom_cons, lowercaseFrom_cons, lowercaseBetween_map_toLower,
      ← List.map_cons, ih]

/-- Lower case is the same after the capitals of ASCII are made small. -/
theorem lowercaseChars_map_toLower (cs : List Char) :
    lowercaseChars (cs.map Char.toLower) = lowercaseChars cs :=
  lowercaseFrom_map_toLower [] cs

end Ascii

end RecordFilter
