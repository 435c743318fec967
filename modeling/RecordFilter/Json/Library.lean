import RecordFilter.Json.Read
import RecordFilter.Json.Write

/-!
# Libraries for JSON documents

Documents are read and written by a library, and a `Json.Library` is what is asked of one: to read
the value of a text and convert it, for the few types that are needed, and to write a value. Which
fields a record has, and what those are that a text does not give, is for the user of the library to
say. Nothing is promised here about what a library accepts.

`Library.builtIn` is the library that is used when none is named. It accepts more than objects: a
record may also be given as an array of the values of its fields, in order. How it words its errors
is of no account.
-/

namespace RecordFilter.Json

/-- A field of a record: its key in an object, and how its value is set. -/
structure Field (ε σ : Type) where
  key : String
  set : Json → σ → Except ε σ

/-- What reads and writes documents, with the errors that it refuses them with. -/
structure Library (ε : Type) where
  /-- The wording of an error. -/
  describe : ε → String
  /-- The truth value that a value is. -/
  flag : Json → Except ε Bool
  /-- The natural number of 64 bits that a value is. -/
  count : Json → Except ε Nat
  /-- The record that a value gives. All fields may be missing: the record to begin with is the one
  in which they have their defaults. -/
  record : {σ : Type} → List (Field ε σ) → σ → Json → Except ε σ
  /-- What the value of a document is converted to. -/
  read : {α : Type} → (Json → Except ε α) → String → Except ε α
  /-- The document of a value. -/
  write : Json → Except ε String

/-- Why the built-in library refuses a document. -/
inductive Complaint where
  | malformed
  | invalidType
  | outOfRange
  | unknownField (key : String)
  | repeatedField (key : String)
  | tooManyItems
deriving DecidableEq, Repr

/-- The wording of the complaint. -/
def Complaint.message : Complaint → String
  | .malformed => "no document"
  | .invalidType => "invalid type"
  | .outOfRange => "number out of range"
  | .unknownField key => "unknown field: " ++ key
  | .repeatedField key => "duplicate field: " ++ key
  | .tooManyItems => "invalid length"

/-- The truth value that a value is. -/
def toFlag : Json → Except Complaint Bool
  | .bool b => .ok b
  | _ => .error .invalidType

/-- The natural number that a value is: one written with digits only. -/
def toCount : Json → Except Complaint Nat
  | .number n =>
    match n.toNat? with
    | some k => if k < Nat.pow 2 64 then .ok k else .error .outOfRange
    | none => .error .invalidType
  | _ => .error .invalidType

section Records

variable {σ : Type} (fields : List (Field Complaint σ))

/-- Sets the fields that the members of an object give. -/
def setMembers (s : σ) : List (String × Json) → Except Complaint σ
  | [] => .ok s
  | (key, j) :: rest =>
    match fields.find? (·.key == key) with
    | none => .error (.unknownField key)
    | some field =>
      if rest.any (·.1 == key) then .error (.repeatedField key)
      else do setMembers (← field.set j s) rest

/-- Sets the fields in order, as far as there are items for them. -/
def setItems (s : σ) : List (Field Complaint σ) → List Json → Except Complaint σ
  | _, [] => .ok s
  | [], _ :: _ => .error .tooManyItems
  | field :: fields, j :: rest => do setItems (← field.set j s) fields rest

/-- The record that a value gives. -/
def toRecord (default : σ) : Json → Except Complaint σ
  | .object members => setMembers fields default members
  | .array items => setItems default fields items
  | _ => .error .invalidType

end Records

/-- The built-in library. -/
def Library.builtIn : Library Complaint where
  describe := Complaint.message
  flag := toFlag
  count := toCount
  record := toRecord
  read of text :=
    match read? text with
    | some j => of j
    | none => .error .malformed
  write j := .ok j.write

end RecordFilter.Json
