import RecordFilter.Error
import RecordFilter.Expr.Basic
import RecordFilter.Token.Scan

/-!
# From tokens to an expression

```text
sequence := conjunction ( "or" conjunction )*
conjunction := term ( "and" term )*
term := "(" sequence ")" | field operator value
operator := "=" | "~"
```

`and` binds tighter than `or`. Keywords count in any ASCII case and, like parentheses and
operators, only bare. Two terms side by side are an error, never an implied `and`; an `or` with
nothing on one side of it is passed over, and so is an `and` before the first term. What follows an
`and` is a term whatever it looks like, and a value is any token.

A sequence is read token by token from left to right by `Progress.step`; `readSequence` is the
fold of it. The inside of parentheses is first collected up to the matching parenthesis, every bare
parenthesis counted wherever it stands, and then read as a sequence of its own, one level deeper.
The number of levels is limited, so the levels left are what the recursion is on.
-/

namespace RecordFilter

/-- What is done about an opening parenthesis that is never closed. -/
inductive ParseMode where
  /-- It is an error. -/
  | strict
  /-- It is closed by the end of what it stands in. -/
  | permissive
deriving DecidableEq, Repr

/-- The operator that the token is. -/
def Token.operator? (t : Token) : Option Operator :=
  if t.isQuoted then none else Operator.ofSymbol? t.text

theorem Token.operator?_eq_some_iff {t : Token} {o : Operator} :
    t.operator? = some o ↔ t.isSymbol o.symbol = true := by
  by_cases h : t.isQuoted = true
  · simp [operator?, isSymbol, h]
  · simp [operator?, isSymbol, h, Operator.ofSymbol?_eq_some_iff]

/-- How deep parentheses may nest. -/
def maxDepth : Nat := 64

/-- A reader of the inside of parentheses. -/
abbrev BodyReader := List Token → Except ParseError Expr

/-- What comes next in a sequence. -/
inductive Phase where
  /-- A conjunction, or the first term after an `or`. -/
  | between
  /-- The term after the `and` given. -/
  | term (conjunction : Token)
  /-- The operator after the field given. -/
  | operator (field : Token)
  /-- The value after the field and the operator given. -/
  | value (field : Token) (operator : Operator) (symbol : Token)
  /-- The rest of the inside of parentheses: the one that opens them, how many inside are open
  still, and the tokens so far, read backwards. -/
  | body (opening : Token) (depth : Nat) (inside : List Token)

/-- How far the reading of a sequence has come. -/
structure Progress where
  /-- The finished conjunctions, the last one first. -/
  alternatives : List Expr
  /-- The terms of the current conjunction, the last one first. -/
  terms : List Expr
  /-- What comes next. -/
  phase : Phase

namespace Progress

/-- Before the first token. -/
def start : Progress :=
  ⟨[], [], .between⟩

/-- Takes up a finished term. -/
def addTerm (p : Progress) (e : Expr) : Progress :=
  { p with terms := e :: p.terms, phase := .between }

/-- Ends the current conjunction, if it has a term. -/
def endConjunction (p : Progress) : Progress :=
  match p.terms with
  | [] => p
  | terms => { p with alternatives := .join .and terms.reverse :: p.alternatives, terms := [] }

/-- The tree of all that has been read. -/
def expr (p : Progress) : Expr :=
  .join .or p.endConjunction.alternatives.reverse

/-- Takes a token as the first of a term. With no reader for their inside, parentheses would nest
too deep. -/
def beginTerm (body? : Option BodyReader) (p : Progress) (t : Token) :
    Except ParseError Progress :=
  if t.isSymbol "(" then
    if body?.isSome then .ok { p with phase := .body t 0 [] }
    else .error (.tooDeep t.offset)
  else .ok { p with phase := .operator t }

/-- Takes up the group whose inside has been collected backwards. -/
def closeGroup (body? : Option BodyReader) (p : Progress) (opening : Token)
    (inside : List Token) : Except ParseError Progress :=
  match body? with
  | none => .error (.tooDeep opening.offset)
  | some body => do
    let e ← body inside.reverse
    if e.isVacuous then .error (.emptyGroup opening.offset) else .ok (p.addTerm e)

/-- Takes one token. -/
def step (body? : Option BodyReader) (p : Progress) (t : Token) : Except ParseError Progress :=
  match p.phase with
  | .between =>
    if t.isSymbol ")" then .error (.unexpectedCloseParen t.offset)
    else if t.isKeyword "or" then .ok p.endConjunction
    else if t.isKeyword "and" then .ok { p with phase := .term t }
    else if p.terms.isEmpty then p.beginTerm body? t
    else .error (.missingAnd t.display t.offset)
  | .term _ => p.beginTerm body? t
  | .operator field =>
    match t.operator? with
    | some operator => .ok { p with phase := .value field operator t }
    | none => .error (.invalidOperation t.display t.offset)
  | .value field operator _ => .ok (p.addTerm (.condition ⟨field.text, operator, t.text⟩))
  | .body opening depth inside =>
    if t.isSymbol "(" then .ok { p with phase := .body opening (depth + 1) (t :: inside) }
    else if t.isSymbol ")" then
      match depth with
      | 0 => p.closeGroup body? opening inside
      | depth + 1 => .ok { p with phase := .body opening depth (t :: inside) }
    else .ok { p with phase := .body opening depth (t :: inside) }

/-- Ends the sequence. -/
def finish (mode : ParseMode) (body? : Option BodyReader) (p : Progress) :
    Except ParseError Expr :=
  match p.phase with
  | .between => .ok p.expr
  | .term conjunction => .error (.missingTerm conjunction.offset)
  | .operator field => .error (.missingOperation field.offset)
  | .value _ _ symbol => .error (.missingValue symbol.offset)
  | .body opening _ inside =>
    match mode with
    | .strict => .error (.unclosedParen opening.offset)
    | .permissive => do return (← p.closeGroup body? opening inside).expr

end Progress

/-- Reads a sequence, the inside of parentheses with `body?`. -/
def readSequence (mode : ParseMode) (body? : Option BodyReader) (ts : List Token) :
    Except ParseError Expr := do
  (← ts.foldlM (Progress.step body?) .start).finish mode body?

/-- Reads a sequence inside which parentheses may nest `levels` deep. -/
def readNested (mode : ParseMode) : (levels : Nat) → List Token → Except ParseError Expr
  | 0 => readSequence mode none
  | levels + 1 => readSequence mode (some (readNested mode levels))

@[simp] theorem readNested_zero (mode : ParseMode) :
    readNested mode 0 = readSequence mode none := rfl

@[simp] theorem readNested_succ (mode : ParseMode) (levels : Nat) :
    readNested mode (levels + 1) = readSequence mode (some (readNested mode levels)) := rfl

/-- The expression that a sequence of tokens stands for. -/
def parseTokens (mode : ParseMode) (ts : List Token) : Except ParseError Expr :=
  readNested mode maxDepth ts

/-- The expression that a filter text stands for. -/
def parse (mode : ParseMode) (input : String) : Except FilterError Expr := do
  let ts ← (tokenize input).mapError .lex
  (parseTokens mode ts).mapError .parse

example : parse .strict "" = .ok .vacuous := by cbv

example : parse .strict "a = 1 or b = 2 and (c ~ 3)" = .ok (.group .or
    [.condition ⟨"a", .equals, "1"⟩,
     .group .and [.condition ⟨"b", .equals, "2"⟩, .condition ⟨"c", .contains, "3"⟩]]) := by cbv

example : parse .strict "(a = 1" = .error (.parse (.unclosedParen 0)) := by cbv

example : parse .permissive "(a = 1" = .ok (.condition ⟨"a", .equals, "1"⟩) := by cbv

end RecordFilter
