import RecordFilter.Json.Basic

/-!
# From text to JSON lexemes

The first half of reading JSON. Blanks are the four that JSON knows. A *word* is a run of
characters that are neither blank nor punctuation nor a quote; it has to be a literal or a number
as a whole. A string ends at the next quote that is not escaped, holds no control character as it
is, and has its escapes resolved; the two halves of a surrogate pair have to stand together.

The text is scanned character by character from left to right, and anything else is refused.
-/

namespace RecordFilter.Json

/-- A unit of a JSON text. -/
inductive Lexeme where
  | openArray
  | closeArray
  | openObject
  | closeObject
  | comma
  | colon
  | null
  | bool (b : Bool)
  | number (n : Numeral)
  | string (s : String)

/-- The lexeme that a word is. -/
def Lexeme.ofWord? (word : List Char) : Option Lexeme :=
  if word = ['n', 'u', 'l', 'l'] then some .null
  else if word = ['t', 'r', 'u', 'e'] then some (.bool true)
  else if word = ['f', 'a', 'l', 's', 'e'] then some (.bool false)
  else (Numeral.ofChars? word).map .number

/-- The lexeme that a character is on its own. -/
def Lexeme.ofPunctuation? (c : Char) : Option Lexeme :=
  if c = '[' then some .openArray
  else if c = ']' then some .closeArray
  else if c = '{' then some .openObject
  else if c = '}' then some .closeObject
  else if c = ',' then some .comma
  else if c = ':' then some .colon
  else none

/-- The blanks of JSON. -/
def isBlank (c : Char) : Bool :=
  c == ' ' || c == '\t' || c == '\n' || c == '\r'

/-- The character that a backslash and `c` stand for. -/
def unescape? (c : Char) : Option Char :=
  if c = '"' || c = '\\' || c = '/' then some c
  else if c = 'b' then some '\x08'
  else if c = 'f' then some '\x0c'
  else if c = 'n' then some '\n'
  else if c = 'r' then some '\r'
  else if c = 't' then some '\t'
  else none

/-- The value of a hexadecimal digit in either case. -/
def hexValue? (c : Char) : Option Nat :=
  if c.isDigit then some (c.toNat - '0'.toNat)
  else if 'a' ≤ c ∧ c ≤ 'f' then some (c.toNat - 'a'.toNat + 10)
  else if 'A' ≤ c ∧ c ≤ 'F' then some (c.toNat - 'A'.toNat + 10)
  else none

/-- Where a scan stands. What has been read of a word or a string is kept backwards. -/
inductive Position where
  /-- Between lexemes. -/
  | between
  /-- In a word. -/
  | word (read : List Char)
  /-- In a string. -/
  | text (read : List Char)
  /-- After a backslash. -/
  | escape (read : List Char)
  /-- In the four digits of a code unit: the first half of the pair if this is the second, how many
  digits are to come, the value of those before. -/
  | unit (read : List Char) (high : Option Nat) (missing value : Nat)
  /-- After the first half of a surrogate pair. -/
  | half (read : List Char) (high : Nat)
  /-- After the backslash that follows the first half of a surrogate pair. -/
  | halfEscape (read : List Char) (high : Nat)

/-- The state of a scan: the lexemes so far, the last one first, and the position. -/
structure Lexing where
  found : List Lexeme
  position : Position

namespace Lexing

/-- Before the first character. -/
def start : Lexing :=
  ⟨[], .between⟩

/-- Takes a character where a lexeme may begin. -/
def begin (found : List Lexeme) (c : Char) : Lexing :=
  if isBlank c then ⟨found, .between⟩
  else if c = '"' then ⟨found, .text []⟩
  else
    match Lexeme.ofPunctuation? c with
    | some l => ⟨l :: found, .between⟩
    | none => ⟨found, .word [c]⟩

/-- Whether a word ends before `c`. -/
def endsBefore (c : Char) : Bool :=
  isBlank c || c == '"' || (Lexeme.ofPunctuation? c).isSome

/-- What a whole code unit adds to a string. -/
def endUnit (read : List Char) (high : Option Nat) (value : Nat) : Option Position :=
  match high with
  | none =>
    if 0xD800 ≤ value ∧ value < 0xDC00 then some (.half read value)
    else if 0xDC00 ≤ value ∧ value < 0xE000 then none
    else some (.text (Char.ofNat value :: read))
  | some high =>
    if 0xDC00 ≤ value ∧ value < 0xE000 then
      some (.text (Char.ofNat (0x10000 + (high - 0xD800) * 0x400 + (value - 0xDC00)) :: read))
    else none

/-- Takes one character. -/
def step (l : Lexing) (c : Char) : Option Lexing :=
  match l.position with
  | .between => some (begin l.found c)
  | .word read =>
    if endsBefore c then do return begin ((← Lexeme.ofWord? read.reverse) :: l.found) c
    else some ⟨l.found, .word (c :: read)⟩
  | .text read =>
    if c = '"' then some ⟨.string (String.ofList read.reverse) :: l.found, .between⟩
    else if c = '\\' then some ⟨l.found, .escape read⟩
    else if c.toNat < 0x20 then none
    else some ⟨l.found, .text (c :: read)⟩
  | .escape read =>
    if c = 'u' then some ⟨l.found, .unit read none 3 0⟩
    else (unescape? c).map fun c => ⟨l.found, .text (c :: read)⟩
  | .unit read high missing value => do
    let value := 16 * value + (← hexValue? c)
    match missing with
    | 0 => return ⟨l.found, ← endUnit read high value⟩
    | missing + 1 => return ⟨l.found, .unit read high missing value⟩
  | .half read high => if c = '\\' then some ⟨l.found, .halfEscape read high⟩ else none
  | .halfEscape read high => if c = 'u' then some ⟨l.found, .unit read high 3 0⟩ else none

/-- Ends the text. -/
def finish (l : Lexing) : Option (List Lexeme) :=
  match l.position with
  | .between => some l.found.reverse
  | .word read => do return ((← Lexeme.ofWord? read.reverse) :: l.found).reverse
  | _ => none

end Lexing

/-- The lexemes of a text, in order. -/
def lexemes? (cs : List Char) : Option (List Lexeme) := do
  (← cs.foldlM Lexing.step .start).finish

end RecordFilter.Json
