import RecordFilter.Error
import RecordFilter.Expr.Basic
import RecordFilter.Json.Library

/-!
# Expressions as JSON

A tree is turned into a value and back by an `Expr.Coding`, and the value is written and read by a
library. Any two will do: what the documents of a tree are good for follows from what is known of
them.

The coding that comes with the built-in library makes a tree an object whose member `type` names its
kind and whose other members are its parts. Reading is more liberal than writing: members come in
any order and unknown ones are passed over, but none that is known may be missing or repeated; an
array of the kind and the parts is read as well; below the root a kind may also be given by its
place in the order condition, and, or; and an operator may be the key of an object that says nothing
more.
-/

namespace RecordFilter

open Json (valuesOf)

/-- The kinds of nodes of a tree. -/
inductive NodeKind where
  | condition
  | group (connective : Connective)
deriving DecidableEq

/-- The kind with the name. -/
def NodeKind.ofName? (name : String) : Option NodeKind :=
  if name = "condition" then some .condition
  else if name = "and" then some (.group .and)
  else if name = "or" then some (.group .or)
  else none

/-- The kind at a place in the order condition, and, or. -/
def NodeKind.ofIndex? : Nat → Option NodeKind
  | 0 => some .condition
  | 1 => some (.group .and)
  | 2 => some (.group .or)
  | _ => none

/-- The kind that a value gives: by name, and below the root also by number. -/
def NodeKind.ofJson? (isRoot : Bool) : Json → Option NodeKind
  | .string name => ofName? name
  | .number n => if isRoot then none else n.toNat?.bind ofIndex?
  | _ => none

/-- The name of a connective as a kind of node. -/
def Connective.name : Connective → String
  | .and => "and"
  | .or => "or"

/-- The operator that a value gives: its symbol, or an object with the symbol as its only key and
nothing under it. -/
def Operator.ofJson? : Json → Option Operator
  | .string symbol => ofSymbol? symbol
  | .object [(symbol, .null)] => ofSymbol? symbol
  | .object [(symbol, .object [])] => ofSymbol? symbol
  | _ => none

/-- The condition with the three parts given. -/
def Condition.ofParts? : (field operator value : Json) → Option Condition
  | .string field, operator, .string value => do
    return ⟨field, ← Operator.ofJson? operator, value⟩
  | _, _, _ => none

/-- The condition that an object describes: each of its parts once. -/
def Condition.ofMembers? (members : List (String × Json)) : Option Condition :=
  match valuesOf "field" members, valuesOf "operator" members, valuesOf "value" members with
  | [field], [operator], [value] => ofParts? field operator value
  | _, _, _ => none

namespace Expr

mutual

/-- A tree as JSON. -/
def toJson : Expr → Json
  | .condition c => .object
    [("type", .string "condition"), ("field", .string c.field),
     ("operator", .string c.operator.symbol), ("value", .string c.value)]
  | .group connective children => .object
    [("type", .string connective.name), ("children", .array (allToJson children))]

/-- Several trees as JSON. -/
def allToJson : List Expr → List Json
  | [] => []
  | e :: rest => e.toJson :: allToJson rest

end

mutual

/-- The tree that a value describes. -/
def ofJson? (isRoot : Bool) : Json → Option Expr
  | .object members =>
    match valuesOf "type" members with
    | [kind] =>
      match NodeKind.ofJson? isRoot kind with
      | some .condition => (Condition.ofMembers? members).map .condition
      | some (.group connective) => (childrenOfMembers? members).map (.group connective)
      | none => none
    | _ => none
  | .array (kind :: parts) =>
    match NodeKind.ofJson? isRoot kind, parts with
    | some .condition, [field, operator, value] =>
      (Condition.ofParts? field operator value).map .condition
    | some (.group connective), [.array items] => (allOfJson? items).map (.group connective)
    | _, _ => none
  | _ => none

/-- The trees that several values below the root describe. -/
def allOfJson? : List Json → Option (List Expr)
  | [] => some []
  | j :: rest => do return (← ofJson? false j) :: (← allOfJson? rest)

/-- The children that an object describes: the items of its one member of that name. -/
def childrenOfMembers? : List (String × Json) → Option (List Expr)
  | [] => none
  | (key, .array items) :: rest =>
    if key = "children" then
      if (valuesOf "children" rest).isEmpty then allOfJson? items else none
    else childrenOfMembers? rest
  | (key, _) :: rest => if key = "children" then none else childrenOfMembers? rest

end

/-- How trees are turned into JSON values and back. -/
structure Coding (ε : Type) where
  encode : Expr → Json
  decode : Json → Except ε Expr

/-- The coding of the built-in library. -/
def Coding.builtIn : Coding Json.Complaint where
  encode := toJson
  decode j :=
    match ofJson? true j with
    | some e => .ok e
    | none => .error .invalidType

section Documents

variable {ε : Type} (lib : Json.Library ε) (code : Coding ε)

/-- The document of a tree. -/
def toDocument (e : Expr) : Except Failure String :=
  (lib.write (code.encode e)).mapError fun error => .serialization (lib.describe error)

/-- The tree of a document. -/
def ofDocument (text : String) : Except Failure Expr :=
  (lib.read code.decode text).mapError fun error => .serialization (lib.describe error)

end Documents

/-- The document that the built-in library writes for a tree. -/
def toJsonText (e : Expr) : String :=
  e.toJson.write

/-- The tree that a document gives to the built-in library, if it gives one. Why it gives none is
for `ofDocument` to tell. -/
def ofJsonText? (text : String) : Option Expr :=
  (ofDocument .builtIn .builtIn text).toOption

end Expr

end RecordFilter
