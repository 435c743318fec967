import RecordFilter.Error
import RecordFilter.Token.Basic

/-!
# From text to tokens

Space, tab and newline separate tokens. A parenthesis is a token of its own. A quote opens a token
that runs to the next quote of the same kind, whatever stands between; there is no escape. Any
other character belongs to a bare token, which ends before a separator or a parenthesis; a quote
directly after it is an error.

The text is scanned character by character from left to right. `Scan.step` takes one character,
and `tokenize` is the fold of it, so that what the scan does on a longer text is what it does on
the rest from the state it has reached.
-/

namespace RecordFilter

/-- The characters between tokens. -/
def isSeparator (c : Char) : Bool :=
  c == ' ' || c == '\t' || c == '\n'

/-- The characters that are tokens of their own. -/
def isParen (c : Char) : Bool :=
  c == '(' || c == ')'

/-- The characters that open and close a quoted token. -/
def isQuote (c : Char) : Bool :=
  c == '"' || c == '\''

/-- The token that a scan is in the middle of. -/
inductive OpenToken where
  /-- None: the scan is between tokens. -/
  | none
  /-- A bare token that began at `start`; its characters so far, read backwards. -/
  | bare (start : Nat) (read : List Char)
  /-- A token in `quote`s that began at `start`; its characters so far, read backwards. -/
  | quoted (quote : Char) (start : Nat) (read : List Char)

/-- The state of a scan. -/
structure Scan where
  /-- How many characters have been read. -/
  offset : Nat
  /-- The finished tokens, the last one first. -/
  found : List Token
  /-- The token in the middle of which the scan is. -/
  current : OpenToken

namespace Scan

/-- The state before the first character. -/
def start : Scan :=
  ⟨0, [], .none⟩

/-- The text that was read backwards as `read`. -/
def textOf (read : List Char) : String :=
  String.ofList read.reverse

/-- The parenthesis `c`, which stands at `offset`. -/
def paren (c : Char) (offset : Nat) : Token :=
  .bare (String.ofList [c]) offset

/-- Reads one character. -/
def step (s : Scan) (c : Char) : Except LexError Scan :=
  match s.current with
  | .none =>
    if isSeparator c then .ok ⟨s.offset + 1, s.found, .none⟩
    else if isQuote c then .ok ⟨s.offset + 1, s.found, .quoted c s.offset []⟩
    else if isParen c then .ok ⟨s.offset + 1, paren c s.offset :: s.found, .none⟩
    else .ok ⟨s.offset + 1, s.found, .bare s.offset [c]⟩
  | .bare start read =>
    if isSeparator c then .ok ⟨s.offset + 1, .bare (textOf read) start :: s.found, .none⟩
    else if isQuote c then .error (.unexpectedQuote c s.offset)
    else if isParen c then
      .ok ⟨s.offset + 1, paren c s.offset :: .bare (textOf read) start :: s.found, .none⟩
    else .ok ⟨s.offset + 1, s.found, .bare start (c :: read)⟩
  | .quoted quote start read =>
    if c = quote then .ok ⟨s.offset + 1, .quoted (textOf read) quote start :: s.found, .none⟩
    else .ok ⟨s.offset + 1, s.found, .quoted quote start (c :: read)⟩

/-- Ends the scan. The end of the text is read as a newline: it ends a bare token, and it belongs
to the text of a quote that is still open. -/
def finish (s : Scan) : Except LexError (List Token) :=
  match s.current with
  | .none => .ok s.found.reverse
  | .bare start read => .ok (Token.bare (textOf read) start :: s.found).reverse
  | .quoted _ start read => .error (.incompleteToken (textOf ('\n' :: read)) start)

end Scan

/-- The tokens of a list of characters. -/
def tokenizeChars (cs : List Char) : Except LexError (List Token) := do
  (← cs.foldlM Scan.step .start).finish

/-- The tokens of a text, in order. -/
def tokenize (input : String) : Except LexError (List Token) :=
  tokenizeChars input.toList

example : tokenize "(a ~ 'b c')" = .ok
    [.bare "(" 0, .bare "a" 1, .bare "~" 3, .quoted "b c" '\'' 5, .bare ")" 10] := rfl

example : tokenize "a~'b'" = .error (.unexpectedQuote '\'' 2) := rfl

example : tokenize "a = 'b" = .error (.incompleteToken "b\n" 4) := rfl

end RecordFilter
