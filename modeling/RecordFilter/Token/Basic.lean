import RecordFilter.Text.Ascii

/-!
# Tokens

A filter text is read as a sequence of tokens. A token remembers whether it stood in quotes: only
a bare token can be a parenthesis, a keyword or an operator, so quoting turns any text into plain
content.
-/

namespace RecordFilter

/-- A unit of a filter text. -/
structure Token where
  /-- The text, without the quotes around it. -/
  text : String
  /-- The quote on both sides of the text, if there is one. -/
  quote : Option Char
  /-- The index of the token's first character in the filter text, its opening quote if it has
  one. -/
  offset : Nat
deriving DecidableEq, Repr

namespace Token

/-- A token with no quotes around it. -/
def bare (text : String) (offset : Nat) : Token :=
  ⟨text, none, offset⟩

/-- A token between two `quote`s. -/
def quoted (text : String) (quote : Char) (offset : Nat) : Token :=
  ⟨text, some quote, offset⟩

/-- Whether the token stood in quotes. -/
def isQuoted (t : Token) : Bool :=
  t.quote.isSome

/-- Whether the token is `symbol`, with no quotes. -/
def isSymbol (t : Token) (symbol : String) : Bool :=
  !t.isQuoted && t.text == symbol

/-- Whether the token is `keyword`, with no quotes and in any ASCII case. -/
def isKeyword (t : Token) (keyword : String) : Bool :=
  !t.isQuoted && eqIgnoringAsciiCase t.text keyword

/-- The token as error texts show it: a bare one as it is, a quoted one in its quotes, with a
backslash before each quote of the same kind inside. -/
def display (t : Token) : String :=
  match t.quote with
  | none => t.text
  | some q =>
    String.ofList
      ([q] ++ t.text.toList.flatMap (fun c => if c = q then ['\\', c] else [c]) ++ [q])

@[simp] theorem isQuoted_bare (text : String) (offset : Nat) :
    (bare text offset).isQuoted = false := rfl

@[simp] theorem isQuoted_quoted (text : String) (quote : Char) (offset : Nat) :
    (quoted text quote offset).isQuoted = true := rfl

@[simp] theorem display_bare (text : String) (offset : Nat) :
    (bare text offset).display = text := rfl

/-- A text without the quote has no backslash put into it. -/
theorem flatMap_escape_eq_self {q : Char} {cs : List Char} (h : q ∉ cs) :
    cs.flatMap (fun c => if c = q then ['\\', c] else [c]) = cs := by
  induction cs with
  | nil => rfl
  | cons c cs ih =>
    obtain ⟨hc, hcs⟩ : q ≠ c ∧ q ∉ cs := by simpa using h
    rw [List.flatMap_cons, ih hcs, if_neg hc.symm]
    rfl

theorem isSymbol_iff {t : Token} {symbol : String} :
    t.isSymbol symbol = true ↔ t.quote = none ∧ t.text = symbol := by
  simp [isSymbol, isQuoted]

theorem isKeyword_iff {t : Token} {keyword : String} :
    t.isKeyword keyword = true ↔ t.quote = none ∧ foldAscii t.text = foldAscii keyword := by
  simp [isKeyword, isQuoted, eqIgnoringAsciiCase_iff]

end Token

end RecordFilter
