import RecordFilter.Json.Numeral
import RecordFilter.Record

/-!
# JSON values

The members of an object are kept in the order of the text, repeated keys included: whether a
repeated key is an error, and which of two members counts, is for the reader of the value to say.
-/

namespace RecordFilter

/-- A JSON value. -/
inductive Json where
  | null
  | bool (b : Bool)
  | number (n : Numeral)
  | string (s : String)
  | array (items : List Json)
  | object (members : List (String × Json))

namespace Json

mutual

/-- How deep arrays and objects nest in the value. -/
def depth : Json → Nat
  | .array items => depthOfItems items + 1
  | .object members => depthOfMembers members + 1
  | _ => 0

/-- The depth of the deepest item. -/
def depthOfItems : List Json → Nat
  | [] => 0
  | j :: rest => max j.depth (depthOfItems rest)

/-- The depth of the deepest member. -/
def depthOfMembers : List (String × Json) → Nat
  | [] => 0
  | (_, j) :: rest => max j.depth (depthOfMembers rest)

end

mutual

/-- The numbers that stand in the value. -/
def numbers : Json → List Numeral
  | .number n => [n]
  | .array items => numbersOfItems items
  | .object members => numbersOfMembers members
  | _ => []

/-- The numbers that stand in the items. -/
def numbersOfItems : List Json → List Numeral
  | [] => []
  | j :: rest => j.numbers ++ numbersOfItems rest

/-- The numbers that stand in the members. -/
def numbersOfMembers : List (String × Json) → List Numeral
  | [] => []
  | (_, j) :: rest => j.numbers ++ numbersOfMembers rest

end

/-- Whether all numbers of the value are rounded to finite doubles. -/
def FitsDoubles (j : Json) : Prop :=
  ∀ n ∈ j.numbers, n.fitsDouble = true

instance (j : Json) : Decidable j.FitsDoubles :=
  decidable_of_iff (j.numbers.all Numeral.fitsDouble = true) List.all_eq_true

/-- The values of all members with the key, in order. -/
def valuesOf (key : String) (members : List (String × Json)) : List Json :=
  (members.filter (·.1 == key)).map Prod.snd

/-- The value of the last member with the key. -/
def lookup? (key : String) (members : List (String × Json)) : Option Json :=
  (valuesOf key members).getLast?

@[simp] theorem valuesOf_nil (key : String) : valuesOf key [] = [] := rfl

@[simp] theorem valuesOf_cons (key k : String) (j : Json) (rest : List (String × Json)) :
    valuesOf key ((k, j) :: rest) =
      if k = key then j :: valuesOf key rest else valuesOf key rest := by
  by_cases h : k = key <;> simp [valuesOf, h]

/-- The string that the value is. -/
def toString? : Json → Option String
  | .string s => some s
  | _ => none

end Json

/-- A JSON object read as a record: its fields are the members that are strings. -/
structure JsonRecord where
  members : List (String × Json)

instance : Record JsonRecord where
  field? r field := (Json.lookup? field r.members).bind Json.toString?

end RecordFilter
