import RecordFilter.Expr.Basic
import RecordFilter.Text.Ascii
import RecordFilter.Text.Blank

/-!
# Canonical form

The text of a tree depends on the tree only. A condition is its field, operator and value with a
space between; a group of two or more stands in parentheses, its children joined by the keyword in
capitals; a group of one is its child; a vacuous group is the empty text. Fields and values are
written in apostrophes where they would not be read back as one bare token.

An apostrophe inside a quoted text is written with a backslash before it. The scan of tokens knows
no such escape, so a canonical form that holds one is not a filter text.
-/

namespace RecordFilter

/-- The characters that cannot stand in a bare token: quotes, parentheses and blanks. -/
def breaksBareToken (c : Char) : Bool :=
  c == '\'' || c == '"' || c == '(' || c == ')' || CharClass.blank.contains c

/-- Whether a text would be lost, broken up or taken for a keyword as a bare token. -/
def needsQuotes (s : String) : Bool :=
  s.isEmpty || s.toList.any breaksBareToken || eqIgnoringAsciiCase s "and" ||
    eqIgnoringAsciiCase s "or"

/-- The characters of a text with a backslash before each apostrophe. -/
def escapeApostrophes (cs : List Char) : List Char :=
  cs.flatMap fun c => if c = '\'' then ['\\', c] else [c]

/-- A text between apostrophes. -/
def inApostrophes (s : String) : String :=
  String.ofList (['\''] ++ escapeApostrophes s.toList ++ ['\''])

/-- A text, between apostrophes if it has to be. -/
def quoteIfNeeded (s : String) : String :=
  if needsQuotes s then inApostrophes s else s

/-- The keyword of the connective, in capitals. -/
def Connective.keyword : Connective → String
  | .and => "AND"
  | .or => "OR"

/-- The canonical form of a condition. -/
def Condition.render (c : Condition) : String :=
  quoteIfNeeded c.field ++ " " ++ c.operator.symbol ++ " " ++ quoteIfNeeded c.value

/-- The canonical form of a group, given those of its children. -/
def renderGroup (connective : Connective) : List String → String
  | [] => ""
  | [child] => child
  | children => "(" ++ String.intercalate (" " ++ connective.keyword ++ " ") children ++ ")"

namespace Expr

mutual

/-- The canonical form of a tree. -/
def render : Expr → String
  | .condition c => c.render
  | .group connective children => renderGroup connective (renderAll children)

/-- The canonical forms of several trees. -/
def renderAll : List Expr → List String
  | [] => []
  | e :: rest => e.render :: renderAll rest

end

theorem renderAll_eq_map (es : List Expr) : renderAll es = es.map render := by
  induction es with
  | nil => rfl
  | cons e rest ih => simp [renderAll, ih]

@[simp] theorem render_vacuous : vacuous.render = "" := rfl

@[simp] theorem render_join (c : Connective) (es : List Expr) :
    (join c es).render = renderGroup c (renderAll es) := by
  match es with
  | [] => rfl
  | [e] => simp [renderAll, renderGroup]
  | a :: b :: rest => rfl

end Expr

end RecordFilter
