import Mathlib.Data.List.Forall2
import Mathlib.Tactic.SplitIfs
import RecordFilter.Proofs.JsonReading

/-!
# The lexemes that are found in a text

The lexemes that a scan finds in a text are written in it one after the other, with blanks between
(`Json.Lexeme.AreSpelled`). What the scan has found when it stands in the middle of a word or a
string says what has to follow: the statements are about the text that is left.
-/

namespace RecordFilter

namespace Json

namespace Lexeme

/-- How a lexeme is written. -/
inductive Spelled : Lexeme → List Char → Prop
  | punctuation {c : Char} {l : Lexeme} (h : ofPunctuation? c = some l) : Spelled l [c]
  | word {text : List Char} {l : Lexeme} (h : ofWord? text = some l) : Spelled l text
  | string {s : String} {text : List Char} (h : StringSpelled s text) : Spelled (.string s) text

/-- How several lexemes are written. -/
inductive AreSpelled : List Lexeme → List Char → Prop
  | nil {blanks : List Char} (h : AreBlanks blanks) : AreSpelled [] blanks
  | cons {l : Lexeme} {ls : List Lexeme} {blanks text rest : List Char} (hblanks : AreBlanks blanks)
    (h : l.Spelled text) (hrest : AreSpelled ls rest) :
    AreSpelled (l :: ls) (blanks ++ (text ++ rest))

theorem AreSpelled.cons_of_spelled {l : Lexeme} {ls : List Lexeme} {text rest : List Char}
    (h : l.Spelled text) (hrest : AreSpelled ls rest) : AreSpelled (l :: ls) (text ++ rest) :=
  .cons areBlanks_nil h hrest

theorem AreSpelled.blank_cons {ls : List Lexeme} {c : Char} {text : List Char}
    (hc : isBlank c = true) (h : AreSpelled ls text) : AreSpelled ls (c :: text) := by
  cases h with
  | nil h => exact .nil (List.forall_mem_cons.2 ⟨hc, h⟩)
  | cons hblanks h hrest => exact .cons (List.forall_mem_cons.2 ⟨hc, hblanks⟩) h hrest

end Lexeme

namespace Lexing

variable {found ls : List Lexeme} {read cs : List Char}

theorem complete_cons_eq_some_iff {l : Lexing} {c : Char} :
    l.complete (c :: cs) = some ls ↔ ∃ m, l.step c = some m ∧ m.complete cs = some ls := by
  rw [complete_cons, Option.bind_eq_some_iff]

/-- A word goes on up to a character that ends words. -/
theorem exists_word_of_complete (h : complete ⟨found, .word read⟩ cs = some ls) :
    ∃ text rest l, cs = text ++ rest ∧ Lexeme.ofWord? (read.reverse ++ text) = some l ∧
      complete ⟨l :: found, .between⟩ rest = some ls := by
  induction cs generalizing read with
  | nil =>
    simp only [complete_nil, finish, Option.bind_eq_bind, Option.bind_eq_some_iff,
      Option.pure_def] at h
    obtain ⟨l, hl, hls⟩ := h
    exact ⟨[], [], l, rfl, by rwa [List.append_nil], hls⟩
  | cons c cs ih =>
    obtain ⟨m, hm, hcs⟩ := complete_cons_eq_some_iff.1 h
    simp only [step] at hm
    split at hm
    next hc =>
      simp only [Option.bind_eq_bind, Option.bind_eq_some_iff, Option.pure_def,
        Option.some.injEq] at hm
      obtain ⟨l, hl, rfl⟩ := hm
      exact ⟨[], c :: cs, l, rfl, by rwa [List.append_nil],
        complete_cons_eq_some_iff.2 ⟨_, rfl, hcs⟩⟩
    next hc =>
      cases hm
      obtain ⟨text, rest, l, rfl, hl, hrest⟩ := ih hcs
      exact ⟨c :: text, rest, l, rfl, by simpa using hl, hrest⟩

/-! ### Strings -/

/-- In the digits of a code unit the next character is a digit. -/
theorem exists_digit_of_complete {high : Option Nat} {missing value : Nat}
    (h : complete ⟨found, .unit read high (missing + 1) value⟩ cs = some ls) :
    ∃ c w rest, cs = c :: rest ∧ hexValue? c = some w ∧
      complete ⟨found, .unit read high missing (16 * value + w)⟩ rest = some ls := by
  cases cs with
  | nil => cases h
  | cons c rest =>
    obtain ⟨m, hm, hrest⟩ := complete_cons_eq_some_iff.1 h
    simp only [step, Option.bind_eq_bind, Option.bind_eq_some_iff, Option.pure_def,
      Option.some.injEq] at hm
    obtain ⟨w, hw, rfl⟩ := hm
    exact ⟨c, w, rest, rfl, hw, hrest⟩

theorem exists_lastDigit_of_complete {high : Option Nat} {value : Nat}
    (h : complete ⟨found, .unit read high 0 value⟩ cs = some ls) :
    ∃ c w rest position, cs = c :: rest ∧ hexValue? c = some w ∧
      endUnit read high (16 * value + w) = some position ∧
      complete ⟨found, position⟩ rest = some ls := by
  cases cs with
  | nil => cases h
  | cons c rest =>
    obtain ⟨m, hm, hrest⟩ := complete_cons_eq_some_iff.1 h
    simp only [step, Option.bind_eq_bind, Option.bind_eq_some_iff, Option.pure_def,
      Option.some.injEq] at hm
    obtain ⟨w, hw, position, hposition, rfl⟩ := hm
    exact ⟨c, w, rest, position, rfl, hw, hposition, hrest⟩

/-- The digits of a code unit are four. -/
theorem exists_unit_of_complete {high : Option Nat}
    (h : complete ⟨found, .unit read high 3 0⟩ cs = some ls) :
    ∃ n digits rest position, cs = digits ++ rest ∧ UnitSpelled n digits ∧
      endUnit read high n = some position ∧ complete ⟨found, position⟩ rest = some ls := by
  obtain ⟨a, w, _, rfl, ha, hfirst⟩ := exists_digit_of_complete h
  obtain ⟨b, x, _, rfl, hb, hsecond⟩ := exists_digit_of_complete hfirst
  obtain ⟨c, y, _, rfl, hc, hthird⟩ := exists_digit_of_complete hsecond
  obtain ⟨d, z, rest, position, rfl, hd, hposition, hrest⟩ := exists_lastDigit_of_complete hthird
  rw [Nat.mul_zero, Nat.zero_add] at hposition
  exact ⟨_, [a, b, c, d], rest, position, rfl, .intro ha hb hc hd, hposition, hrest⟩

theorem mem_shortEscapes_of_unescape? {e c : Char} (h : unescape? e = some c) :
    (e, c) ∈ shortEscapes := by
  unfold unescape? at h
  split_ifs at h with hsame hb hf hn hr ht
  · cases h
    rcases (by simpa using hsame) with (rfl | rfl) | rfl <;> decide
  all_goals
    subst_vars
    cases h
    decide

theorem hexValue?_lt {c : Char} {w : Nat} (h : hexValue? c = some w) : w < 16 := by
  have hle {a b : Char} (hab : a ≤ b) : a.toNat ≤ b.toNat := hab
  unfold hexValue? at h
  split_ifs at h with hdigit hsmall hlarge
  · cases h
    have hnine : c.toNat ≤ 57 := by
      simp only [Char.isDigit, Bool.and_eq_true, decide_eq_true_eq] at hdigit
      exact hdigit.2
    have hzero : '0'.toNat = 48 := rfl
    omega
  · cases h
    have hf : c.toNat ≤ 102 := hle hsmall.2
    have ha : 'a'.toNat = 97 := rfl
    omega
  · cases h
    have hf : c.toNat ≤ 70 := hle hlarge.2
    have ha : 'A'.toNat = 65 := rfl
    omega

theorem unit_lt {n : Nat} {digits : List Char} (h : UnitSpelled n digits) : n < 0x10000 := by
  obtain ⟨ha, hb, hc, hd⟩ := h
  have hw := hexValue?_lt ha
  have hx := hexValue?_lt hb
  have hy := hexValue?_lt hc
  have hz := hexValue?_lt hd
  omega

theorem toNat_ofNat {n : Nat} (h : n < 0xD800 ∨ 0xDFFF < n ∧ n < 0x110000) :
    (Char.ofNat n).toNat = n := by
  have hvalid : n.isValidChar := h
  rw [Char.ofNat, dif_pos hvalid]
  rfl

/-- After the first half of a surrogate pair there is the second one. -/
theorem exists_half_of_complete {high : Nat}
    (h : complete ⟨found, .half read high⟩ cs = some ls) :
    ∃ low digits rest, cs = '\\' :: 'u' :: (digits ++ rest) ∧ UnitSpelled low digits ∧
      (0xDC00 ≤ low ∧ low < 0xE000) ∧
      complete ⟨found, .text
        (Char.ofNat (0x10000 + (high - 0xD800) * 0x400 + (low - 0xDC00)) :: read)⟩ rest =
          some ls := by
  cases cs with
  | nil => cases h
  | cons c cs =>
    obtain ⟨m, hm, hcs⟩ := complete_cons_eq_some_iff.1 h
    obtain ⟨rfl, hm⟩ := Option.ite_none_right_eq_some.1 hm
    cases hm
    cases cs with
    | nil => cases hcs
    | cons d cs =>
      obtain ⟨m, hm, hcs⟩ := complete_cons_eq_some_iff.1 hcs
      obtain ⟨rfl, hm⟩ := Option.ite_none_right_eq_some.1 hm
      cases hm
      obtain ⟨low, digits, rest, position, rfl, hdigits, hposition, hrest⟩ :=
        exists_unit_of_complete hcs
      obtain ⟨hlow, hposition⟩ := Option.ite_none_right_eq_some.1 hposition
      cases hposition
      exact ⟨low, digits, rest, rfl, hdigits, hlow, hrest⟩

theorem exists_escape_of_complete (h : complete ⟨found, .escape read⟩ cs = some ls) :
    ∃ c part rest, cs = part ++ rest ∧ CharSpelled c ('\\' :: part) ∧
      complete ⟨found, .text (c :: read)⟩ rest = some ls := by
  cases cs with
  | nil => cases h
  | cons e cs =>
    obtain ⟨m, hm, hcs⟩ := complete_cons_eq_some_iff.1 h
    simp only [step] at hm
    split at hm
    next he =>
      cases he
      cases hm
      obtain ⟨n, digits, rest, position, rfl, hdigits, hposition, hrest⟩ :=
        exists_unit_of_complete hcs
      have hn := unit_lt hdigits
      simp only [endUnit] at hposition
      split_ifs at hposition with hhigh hlow
      · cases hposition
        obtain ⟨low, lowDigits, rest, rfl, hlowDigits, hlow, hrest⟩ := exists_half_of_complete hrest
        have hc := toNat_ofNat (n := 0x10000 + (n - 0xD800) * 0x400 + (low - 0xDC00)) (by omega)
        exact ⟨_, 'u' :: (digits ++ '\\' :: 'u' :: lowDigits), rest, by simp,
          .pair hhigh hlow hc hdigits hlowDigits, hrest⟩
      · cases hposition
        have hc := toNat_ofNat (n := n) (by omega)
        exact ⟨_, 'u' :: digits, rest, rfl, .unit (by rwa [hc]), hrest⟩
    next he =>
      obtain ⟨c, hc, rfl⟩ := Option.map_eq_some_iff.1 hm
      exact ⟨c, [e], cs, rfl, .short (mem_shortEscapes_of_unescape? hc), hcs⟩

/-- A string ends here, or there is a character. -/
theorem end_or_char_of_complete (h : complete ⟨found, .text read⟩ cs = some ls) :
    (∃ rest, cs = '"' :: rest ∧
      complete ⟨.string (String.ofList read.reverse) :: found, .between⟩ rest = some ls) ∨
    ∃ c part rest, cs = part ++ rest ∧ part ≠ [] ∧ CharSpelled c part ∧
      complete ⟨found, .text (c :: read)⟩ rest = some ls := by
  cases cs with
  | nil => cases h
  | cons c cs =>
    obtain ⟨m, hm, hcs⟩ := complete_cons_eq_some_iff.1 h
    simp only [step] at hm
    split_ifs at hm with hquote hslash hcontrol
    · cases hm
      exact .inl ⟨cs, by rw [hquote], hcs⟩
    · cases hm
      obtain ⟨d, part, rest, rfl, hd, hrest⟩ := exists_escape_of_complete hcs
      exact .inr ⟨d, '\\' :: part, rest, by rw [hslash, List.cons_append], by simp, hd, hrest⟩
    · cases hm
      exact .inr ⟨c, [c], cs, rfl, by simp, .plain hquote hslash (Nat.not_lt.1 hcontrol), hcs⟩

theorem exists_string_of_complete (h : complete ⟨found, .text read⟩ cs = some ls) :
    ∃ chars parts rest, cs = parts.flatten ++ '"' :: rest ∧ List.Forall₂ CharSpelled chars parts ∧
      complete ⟨.string (String.ofList (read.reverse ++ chars)) :: found, .between⟩ rest =
        some ls := by
  -- a character takes up one character of the text or several, so the induction is on the length
  induction hn : cs.length using Nat.strongRecOn generalizing read cs with
  | ind n ih =>
    rcases end_or_char_of_complete h with
      ⟨rest, rfl, hrest⟩ | ⟨c, part, rest, rfl, hpart, hc, hrest⟩
    · exact ⟨[], [], rest, rfl, .nil, by rwa [List.append_nil]⟩
    · have hpos := List.length_pos_of_ne_nil hpart
      obtain ⟨chars, parts, rest, rfl, hchars, hrest⟩ :=
        ih rest.length (by rw [← hn, List.length_append]; omega) hrest rfl
      exact ⟨c :: chars, part :: parts, rest, by simp, .cons hc hchars, by simpa using hrest⟩

/-- The lexemes that are found in a text are written in it. -/
theorem areSpelled_of_complete (h : complete ⟨found, .between⟩ cs = some ls) :
    ∃ ms, ls = found.reverse ++ ms ∧ Lexeme.AreSpelled ms cs := by
  induction hn : cs.length using Nat.strongRecOn generalizing found cs with
  | ind n ih =>
    have hnext {l : Lexeme} {rest : List Char} (text : List Char) (hcs : cs = text ++ rest)
        (hne : text ≠ []) (hl : l.Spelled text)
        (hrest : complete ⟨l :: found, .between⟩ rest = some ls) :
        ∃ ms, ls = found.reverse ++ ms ∧ Lexeme.AreSpelled ms cs := by
      subst hcs
      have hpos := List.length_pos_of_ne_nil hne
      obtain ⟨ms, rfl, hms⟩ :=
        ih rest.length (by rw [← hn, List.length_append]; omega) hrest rfl
      exact ⟨l :: ms, by simp, .cons_of_spelled hl hms⟩
    cases cs with
    | nil =>
      cases h
      exact ⟨[], by simp, .nil areBlanks_nil⟩
    | cons c cs =>
      obtain ⟨m, hm, hcs⟩ := complete_cons_eq_some_iff.1 h
      simp only [step, begin] at hm
      split_ifs at hm with hblank hquote
      · cases hm
        obtain ⟨ms, hls, hms⟩ := ih cs.length (by rw [← hn, List.length_cons]; omega) hcs rfl
        exact ⟨ms, hls, hms.blank_cons hblank⟩
      · cases hm
        obtain ⟨chars, parts, rest, rfl, hchars, hrest⟩ := exists_string_of_complete hcs
        have hstring := StringSpelled.intro (s := String.ofList chars) (by simpa using hchars)
        exact hnext _ (by rw [hquote]; simp) (by simp) (.string hstring) hrest
      · cases hl : Lexeme.ofPunctuation? c with
        | some l =>
          rw [hl] at hm
          cases hm
          exact hnext [c] rfl (by simp) (.punctuation hl) hcs
        | none =>
          rw [hl] at hm
          cases hm
          obtain ⟨text, rest, l, rfl, hl, hrest⟩ := exists_word_of_complete hcs
          exact hnext (c :: text) rfl (by simp) (.word hl) hrest

end Lexing

theorem areSpelled_of_lexemes? {ls : List Lexeme} {cs : List Char} (h : lexemes? cs = some ls) :
    Lexeme.AreSpelled ls cs := by
  have hstart : Lexing.complete ⟨[], .between⟩ cs = some ls := h
  obtain ⟨ms, rfl, hms⟩ := Lexing.areSpelled_of_complete hstart
  exact hms

end Json

end RecordFilter
