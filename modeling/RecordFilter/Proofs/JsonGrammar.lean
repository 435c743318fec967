import Mathlib.Data.List.Forall2
import RecordFilter.Json.Read
import RecordFilter.Proofs.Numerals

/-!
# The texts of a JSON value

A value has many texts: blanks may stand around every part, a character of a string may be written
as it is or as an escape, and an exponent in several ways. `Json.Spelled` is the grammar of these
texts, without a word about how they are read.
-/

namespace RecordFilter

namespace Json

/-! ## Values -/

/-- Induction over a value, the hypothesis given for each item of an array and for the value of each
member of an object. -/
@[elab_as_elim, induction_eliminator]
theorem induct {motive : Json → Prop} (null : motive .null) (bool : ∀ b, motive (.bool b))
    (number : ∀ n, motive (.number n)) (string : ∀ s, motive (.string s))
    (array : ∀ items, (∀ j ∈ items, motive j) → motive (.array items))
    (object : ∀ members, (∀ m ∈ members, motive m.2) → motive (.object members)) : ∀ j, motive j
  | .null => null
  | .bool b => bool b
  | .number n => number n
  | .string s => string s
  | .array items => array items fun j _ => induct null bool number string array object j
  | .object members =>
    object members fun m _ => induct null bool number string array object m.2
termination_by j => sizeOf j
decreasing_by
  · have hj := List.sizeOf_lt_of_mem ‹j ∈ items›
    simp only [Json.array.sizeOf_spec]
    omega
  · have hm := List.sizeOf_lt_of_mem ‹m ∈ members›
    have hvalue : sizeOf m.2 < sizeOf m := by
      cases m
      simp only [Prod.mk.sizeOf_spec]
      omega
    simp only [Json.object.sizeOf_spec]
    omega

theorem mem_numbersOfItems {items : List Json} {n : Numeral} :
    n ∈ numbersOfItems items ↔ ∃ j ∈ items, n ∈ j.numbers := by
  induction items with
  | nil => simp [numbersOfItems]
  | cons j rest ih => simp [numbersOfItems, ih]

theorem mem_numbersOfMembers {members : List (String × Json)} {n : Numeral} :
    n ∈ numbersOfMembers members ↔ ∃ m ∈ members, n ∈ m.2.numbers := by
  induction members with
  | nil => simp [numbersOfMembers]
  | cons m rest ih => simp [numbersOfMembers, ih]

theorem depthOfItems_le_iff {items : List Json} {n : Nat} :
    depthOfItems items ≤ n ↔ ∀ j ∈ items, j.depth ≤ n := by
  induction items with
  | nil => simp [depthOfItems]
  | cons j rest ih => rw [depthOfItems, Nat.max_le, ih, List.forall_mem_cons]

theorem depthOfMembers_le_iff {members : List (String × Json)} {n : Nat} :
    depthOfMembers members ≤ n ↔ ∀ m ∈ members, m.2.depth ≤ n := by
  induction members with
  | nil => simp [depthOfMembers]
  | cons m rest ih => rw [depthOfMembers, Nat.max_le, ih, List.forall_mem_cons]

theorem fitsDoubles_object_iff {members : List (String × Json)} :
    (object members).FitsDoubles ↔ ∀ m ∈ members, m.2.FitsDoubles := by
  constructor
  · exact fun h m hm n hn => h n (mem_numbersOfMembers.2 ⟨m, hm, hn⟩)
  · intro h n hn
    obtain ⟨m, hm, hnm⟩ := mem_numbersOfMembers.1 hn
    exact h m hm n hnm

/-- What may stand around every part of a text. -/
def AreBlanks (cs : List Char) : Prop :=
  ∀ c ∈ cs, isBlank c = true

instance (cs : List Char) : Decidable (AreBlanks cs) :=
  decidable_of_iff (cs.all isBlank = true) List.all_eq_true

theorem areBlanks_nil : AreBlanks [] := by
  simp [AreBlanks]

theorem areBlanks_append {before after : List Char} (hbefore : AreBlanks before)
    (hafter : AreBlanks after) : AreBlanks (before ++ after) :=
  List.forall_mem_append.2 ⟨hbefore, hafter⟩

/-- The characters that a backslash may stand before, and what the two stand for. -/
def shortEscapes : List (Char × Char) :=
  [('"', '"'), ('\\', '\\'), ('/', '/'), ('b', '\x08'), ('f', '\x0c'), ('n', '\n'), ('r', '\r'),
    ('t', '\t')]

/-- How a code unit is written: four hexadecimal digits. -/
inductive UnitSpelled : Nat → List Char → Prop
  | intro {a b c d : Char} {w x y z : Nat} (ha : hexValue? a = some w) (hb : hexValue? b = some x)
    (hc : hexValue? c = some y) (hd : hexValue? d = some z) :
    UnitSpelled (16 * (16 * (16 * w + x) + y) + z) [a, b, c, d]

/-- How a character is written in a string. -/
inductive CharSpelled (c : Char) : List Char → Prop
  /-- As it is, unless it ends the string, begins an escape, or is a control character. -/
  | plain (hquote : c ≠ '"') (hslash : c ≠ '\\') (hcontrol : 0x20 ≤ c.toNat) : CharSpelled c [c]
  | short {e : Char} (he : (e, c) ∈ shortEscapes) : CharSpelled c ['\\', e]
  | unit {digits : List Char} (h : UnitSpelled c.toNat digits) :
    CharSpelled c ('\\' :: 'u' :: digits)
  /-- As the two halves of a surrogate pair. -/
  | pair {high low : Nat} {highDigits lowDigits : List Char}
    (hhigh : 0xD800 ≤ high ∧ high < 0xDC00) (hlow : 0xDC00 ≤ low ∧ low < 0xE000)
    (hc : c.toNat = 0x10000 + (high - 0xD800) * 0x400 + (low - 0xDC00))
    (hhighDigits : UnitSpelled high highDigits) (hlowDigits : UnitSpelled low lowDigits) :
    CharSpelled c ('\\' :: 'u' :: (highDigits ++ '\\' :: 'u' :: lowDigits))

/-- Characters that need no escape may be written as they are. -/
theorem charsSpelled_plain {cs : List Char}
    (h : (cs.all fun c => c ≠ '"' ∧ c ≠ '\\' ∧ 0x20 ≤ c.toNat) = true) :
    List.Forall₂ CharSpelled cs (cs.map ([·])) := by
  rw [List.forall₂_map_right_iff, List.forall₂_same]
  intro c hc
  obtain ⟨hquote, hslash, hcontrol⟩ := of_decide_eq_true (List.all_eq_true.1 h c hc)
  exact .plain hquote hslash hcontrol

/-- How a string is written, its quotes included. -/
inductive StringSpelled (s : String) : List Char → Prop
  | intro {parts : List (List Char)} (h : List.Forall₂ CharSpelled s.toList parts) :
    StringSpelled s ('"' :: (parts.flatten ++ ['"']))

mutual

/-- How a value is written, with no blanks around it. -/
inductive Spelled : Json → List Char → Prop
  | null : Spelled .null ['n', 'u', 'l', 'l']
  | true : Spelled (.bool Bool.true) ['t', 'r', 'u', 'e']
  | false : Spelled (.bool Bool.false) ['f', 'a', 'l', 's', 'e']
  | number {n : Numeral} {text : List Char} (h : n.Spelled text) : Spelled (.number n) text
  | string {s : String} {text : List Char} (h : StringSpelled s text) : Spelled (.string s) text
  | array {items : List Json} {blanks : List Char} {texts : List (List Char)}
    (hblanks : AreBlanks blanks) (h : List.Forall₂ PartSpelled items texts) :
    Spelled (.array items) ('[' :: (blanks ++ [','].intercalate texts ++ [']']))
  | object {members : List (String × Json)} {blanks : List Char} {texts : List (List Char)}
    (hblanks : AreBlanks blanks) (h : List.Forall₂ MemberSpelled members texts) :
    Spelled (.object members) ('{' :: (blanks ++ [','].intercalate texts ++ ['}']))

/-- How a value is written as a part of another one or as a document. -/
inductive PartSpelled : Json → List Char → Prop
  | intro {j : Json} {before text after : List Char} (hbefore : AreBlanks before)
    (hafter : AreBlanks after) (h : Spelled j text) : PartSpelled j (before ++ text ++ after)

/-- How a member of an object is written. -/
inductive MemberSpelled : String × Json → List Char → Prop
  | intro {key : String} {j : Json} {before keyText after text : List Char}
    (hbefore : AreBlanks before) (hafter : AreBlanks after) (hkey : StringSpelled key keyText)
    (h : PartSpelled j text) :
    MemberSpelled (key, j) (before ++ keyText ++ after ++ ':' :: text)

end

end Json

end RecordFilter
