import RecordFilter.Text.Casing
import RecordFilter.Text.LowercaseRuns

/-!
# Lower case

Full lower-casing of a string. Each character has a lower-case form of its own, except the capital
sigma, which is written `ς` at the end of a word and `σ` elsewhere. A sigma ends a word if, passing
over case-ignorable characters, a cased character stands before it and none stands after it. The
rule looks at the whole string, so the lower case of a part of a string need not be a part of the
lower case of the string.
-/

namespace RecordFilter

/-- The lower-case form of a character on its own. -/
def lowercaseChar (c : Char) : List Char :=
  if c.toNat < 0x80 then [c.toLower]
  else if c = '\u0130' then ['i', '\u0307']
  else
    match lowercaseRuns.findSome? (·.map? c.toNat) with
    | some n => [Char.ofNat n]
    | none => [c]

/-- Whether the first character that is not case-ignorable is cased. -/
def meetsCased (cs : List Char) : Bool :=
  match cs.dropWhile CharClass.caseIgnorable.contains with
  | [] => false
  | c :: _ => CharClass.cased.contains c

/-- Whether a sigma that stands between `before`, read backwards, and `after` ends a word. -/
def endsWord (before after : List Char) : Bool :=
  meetsCased before && !meetsCased after

/-- The lower-case form of `c` where it stands: `before` it, read backwards, and `after` it. -/
def lowercaseBetween (before : List Char) (c : Char) (after : List Char) : List Char :=
  if c = 'Σ' then [if endsWord before after then 'ς' else 'σ'] else lowercaseChar c

/-- Lower-cases what is left of a text, given what stands `before` it and what has been `written`
for that, both backwards. -/
def lowercaseFrom (before written : List Char) : List Char → List Char
  | [] => written.reverse
  | c :: after =>
    lowercaseFrom (c :: before) ((lowercaseBetween before c after).reverse ++ written) after

/-- The characters of a text in lower case. -/
def lowercaseChars (cs : List Char) : List Char :=
  lowercaseFrom [] [] cs

/-- A string in lower case. -/
def lowercase (s : String) : String :=
  String.ofList (lowercaseChars s.toList)

theorem lowercaseFrom_eq (before written cs : List Char) :
    lowercaseFrom before written cs = written.reverse ++ lowercaseFrom before [] cs := by
  induction cs generalizing before written with
  | nil => simp [lowercaseFrom]
  | cons c after ih =>
    rw [lowercaseFrom, lowercaseFrom, ih, ih (c :: before) (_ ++ [])]
    simp

theorem lowercaseFrom_cons (before : List Char) (c : Char) (after : List Char) :
    lowercaseFrom before [] (c :: after) =
      lowercaseBetween before c after ++ lowercaseFrom (c :: before) [] after := by
  rw [lowercaseFrom, lowercaseFrom_eq]
  simp

@[simp] theorem lowercase_empty : lowercase "" = "" := rfl

end RecordFilter
