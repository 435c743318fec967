import RecordFilter.Text.Literal

/-!
# Errors

Why a filter text is refused. Each cause carries the offset it is about, counted in characters,
and `message` gives its wording.

A `Failure` is whatever an operation of the library can fail with: besides a filter that is refused,
a configuration that is, and a tree that cannot be written as a document. What is wrong in the two
last cases is found by a library that reads and writes documents, whose wording is carried along.
-/

namespace RecordFilter

/-- Why a text is no sequence of tokens. -/
inductive LexError where
  /-- A quote inside a bare token. -/
  | unexpectedQuote (quote : Char) (offset : Nat)
  /-- A quote that is never closed, with all that follows it. -/
  | incompleteToken (text : String) (offset : Nat)
deriving DecidableEq, Repr

/-- Why a sequence of tokens is no expression. -/
inductive ParseError where
  /-- A closing parenthesis where a term should start. -/
  | unexpectedCloseParen (offset : Nat)
  /-- An opening parenthesis with no closing one. -/
  | unclosedParen (offset : Nat)
  /-- Parentheses with no condition inside. -/
  | emptyGroup (offset : Nat)
  /-- A term next to another one, with no conjunction between. -/
  | missingAnd (token : String) (offset : Nat)
  /-- An `and` with nothing after it. -/
  | missingTerm (offset : Nat)
  /-- An opening parenthesis inside as many others as are allowed. -/
  | tooDeep (offset : Nat)
  /-- A field with nothing after it. -/
  | missingOperation (offset : Nat)
  /-- A token that is no operator, where one should stand. -/
  | invalidOperation (token : String) (offset : Nat)
  /-- An operator with nothing after it. -/
  | missingValue (offset : Nat)
deriving DecidableEq, Repr

/-- Why a text is no filter. -/
inductive FilterError where
  | lex (cause : LexError)
  | parse (cause : ParseError)
deriving DecidableEq, Repr

/-- Why an operation fails. -/
inductive Failure where
  /-- A text is no filter. -/
  | filter (cause : FilterError)
  /-- A value is no configuration. -/
  | invalidConfig (details : String)
  /-- A tree cannot be written as a document. -/
  | serialization (details : String)
deriving DecidableEq, Repr

/-- The offset the error is about. -/
def LexError.offset : LexError → Nat
  | .unexpectedQuote _ offset => offset
  | .incompleteToken _ offset => offset

/-- The wording of the error. -/
def LexError.message : LexError → String
  | .unexpectedQuote quote offset =>
    "unexpected quote " ++ Literal.ofChar quote ++ " at offset " ++ toString offset
  | .incompleteToken text offset =>
    "incomplete token " ++ Literal.ofString text ++ " starting at offset " ++ toString offset

/-- The offset the error is about. -/
def ParseError.offset : ParseError → Nat
  | .unexpectedCloseParen offset => offset
  | .unclosedParen offset => offset
  | .emptyGroup offset => offset
  | .missingAnd _ offset => offset
  | .missingTerm offset => offset
  | .tooDeep offset => offset
  | .missingOperation offset => offset
  | .invalidOperation _ offset => offset
  | .missingValue offset => offset

/-- What the error complains of, without the offset. -/
def ParseError.complaint : ParseError → String
  | .unexpectedCloseParen _ => "unexpected close paren"
  | .unclosedParen _ => "unclosed paren"
  | .emptyGroup _ => "empty group"
  | .missingAnd token _ => "missing: AND before " ++ token
  | .missingTerm _ => "missing term after AND"
  | .tooDeep _ => "parentheses nested too deep"
  | .missingOperation _ => "missing operation after field"
  | .invalidOperation token _ => "invalid operation: " ++ token
  | .missingValue _ => "missing value after operation"

/-- The wording of the error. -/
def ParseError.message (e : ParseError) : String :=
  e.complaint ++ " at offset " ++ toString e.offset

/-- The offset the error is about. -/
def FilterError.offset : FilterError → Nat
  | .lex cause => cause.offset
  | .parse cause => cause.offset

/-- The wording of the error, which names the stage that failed. -/
def FilterError.message : FilterError → String
  | .lex cause => "Lex error: " ++ cause.message
  | .parse cause => "Parse error: " ++ cause.message

/-- The wording of the failure, which names the operation that failed. -/
def Failure.message : Failure → String
  | .filter cause => cause.message
  | .invalidConfig details => "Invalid config: " ++ details
  | .serialization details => "Serialization error: " ++ details

end RecordFilter
