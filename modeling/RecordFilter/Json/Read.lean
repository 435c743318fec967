import RecordFilter.Json.Lexeme

/-!
# From lexemes to a JSON value

The second half of reading JSON. The lexemes are taken from left to right, with a stack of the
arrays and objects that are still open. A text has to be one value, with nothing after it.
-/

namespace RecordFilter.Json

/-- An array or an object that is still open, with what it holds so far, the last one first. -/
inductive OpenJson where
  | array (items : List Json)
  | object (members : List (String × Json))
  /-- An object in which the value of `key` comes next. -/
  | member (members : List (String × Json)) (key : String)

/-- What the next lexeme has to be. -/
inductive Awaited where
  /-- A value. -/
  | value
  /-- A value, or the end of the array just opened. -/
  | valueOrEnd
  /-- A key. -/
  | key
  /-- A key, or the end of the object just opened. -/
  | keyOrEnd
  /-- The colon after the key given. -/
  | colon (key : String)
  /-- A comma, or the end of the innermost array or object. -/
  | commaOrEnd

/-- How far the reading of a value has come. -/
inductive Reading where
  /-- Inside the value: what is open, the innermost first, and what comes next. -/
  | inside (stack : List OpenJson) (awaited : Awaited)
  /-- After it. -/
  | complete (value : Json)

namespace Reading

/-- Before the first lexeme. -/
def start : Reading :=
  .inside [] .value

/-- Takes up a whole value. -/
def addValue (stack : List OpenJson) (j : Json) : Option Reading :=
  match stack with
  | [] => some (.complete j)
  | .array items :: outer => some (.inside (.array (j :: items) :: outer) .commaOrEnd)
  | .member members key :: outer =>
    some (.inside (.object ((key, j) :: members) :: outer) .commaOrEnd)
  | .object _ :: _ => none

/-- Ends the array that is open. -/
def endArray (stack : List OpenJson) : Option Reading :=
  match stack with
  | .array items :: outer => addValue outer (.array items.reverse)
  | _ => none

/-- Ends the object that is open. -/
def endObject (stack : List OpenJson) : Option Reading :=
  match stack with
  | .object members :: outer => addValue outer (.object members.reverse)
  | _ => none

/-- Takes a lexeme where a value has to begin. -/
def beginValue (stack : List OpenJson) : Lexeme → Option Reading
  | .openArray => some (.inside (.array [] :: stack) .valueOrEnd)
  | .openObject => some (.inside (.object [] :: stack) .keyOrEnd)
  | .null => addValue stack .null
  | .bool b => addValue stack (.bool b)
  | .number n => addValue stack (.number n)
  | .string s => addValue stack (.string s)
  | _ => none

/-- Takes one lexeme. -/
def step : Reading → Lexeme → Option Reading
  | .complete _, _ => none
  | .inside stack .value, l => beginValue stack l
  | .inside stack .valueOrEnd, .closeArray => endArray stack
  | .inside stack .valueOrEnd, l => beginValue stack l
  | .inside stack .key, .string key => some (.inside stack (.colon key))
  | .inside stack .keyOrEnd, .string key => some (.inside stack (.colon key))
  | .inside stack .keyOrEnd, .closeObject => endObject stack
  | .inside (.object members :: outer) (.colon key), .colon =>
    some (.inside (.member members key :: outer) .value)
  | .inside (.array items :: outer) .commaOrEnd, .comma =>
    some (.inside (.array items :: outer) .value)
  | .inside (.object members :: outer) .commaOrEnd, .comma =>
    some (.inside (.object members :: outer) .key)
  | .inside stack .commaOrEnd, .closeArray => endArray stack
  | .inside stack .commaOrEnd, .closeObject => endObject stack
  | _, _ => none

/-- The value, if the reading is complete. -/
def value? : Reading → Option Json
  | .complete j => some j
  | .inside _ _ => none

end Reading

/-- The value that a sequence of lexemes is. -/
def ofLexemes? (ls : List Lexeme) : Option Json := do
  (← ls.foldlM Reading.step .start).value?

/-- The value that a text is. -/
def parse? (text : String) : Option Json :=
  (lexemes? text.toList).bind ofLexemes?

/-- How deep arrays and objects may nest in a document. -/
def maxNesting : Nat := 127

/-- The value that a document is. Not every text is one: it may nest too deep, or have a number that
is too large for a double. -/
def read? (text : String) : Option Json :=
  (parse? text).filter fun j => decide (j.FitsDoubles ∧ j.depth ≤ maxNesting)

end RecordFilter.Json
