import RecordFilter.Json.Basic
import RecordFilter.Scripting.Host

/-!
# A host language

Values of a dynamically typed language with its exceptions, as a host of the library. The wording of
an exception belongs to the language, but for that of the failures that the library passes on.
-/

namespace RecordFilter.Scripting

/-- A value of the calling program. -/
inductive Value where
  /-- The value that stands for the absence of one. -/
  | none
  | bool (b : Bool)
  | int (n : Int)
  | float (n : Numeral)
  | text (s : String)
  /-- A text whose code units are no characters, for half of a surrogate pair stands alone. -/
  | brokenText (units : List Nat)
  | list (items : List Value)
  /-- A dictionary, in the order in which its keys were first set. -/
  | dict (entries : List (Value × Value))
  /-- An object with named attributes. -/
  | object (attributes : List (String × Value))
  /-- A number of another library, which says itself which whole number or which truth value it
  stands for. -/
  | convertible (index? : Option Int) (truth? : Option Bool)

/-- Why a call fails. -/
inductive Fault where
  /-- A value has the wrong type. -/
  | wrongType
  /-- A number is too large or too small. -/
  | outOfRange
  /-- A text cannot be encoded. -/
  | noEncoding (units : List Nat)
  /-- A value has no attribute of that name. -/
  | noAttribute (name : String)
  | valueError (message : String)
  | runtimeError (message : String)
deriving DecidableEq, Repr

/-- The class of a fault. -/
def Fault.kind : Fault → String
  | .wrongType => "TypeError"
  | .outOfRange => "OverflowError"
  | .noEncoding _ => "UnicodeEncodeError"
  | .noAttribute _ => "AttributeError"
  | .valueError _ => "ValueError"
  | .runtimeError _ => "RuntimeError"

/-- The message of a fault, unless the wording is the language's own. -/
def Fault.message? : Fault → Option String
  | .valueError message => some message
  | .runtimeError message => some message
  | _ => none

instance : Exceptions Fault where
  valueError := .valueError
  runtimeError := .runtimeError
  noConstructor := .wrongType
  noEventLoop := .runtimeError "no running event loop"
  describe f :=
    match f.message? with
    | some message => f.kind ++ ": " ++ message
    | none => f.kind

namespace Value

/-! ## From JSON -/

/-- Sets a key of a dictionary: a new one comes last, an old one keeps its place. -/
def setEntry (key : String) (value : Value) :
    List (String × Value) → List (String × Value)
  | [] => [(key, value)]
  | (k, v) :: rest => if k = key then (k, value) :: rest else (k, v) :: setEntry key value rest

/-- The number that a JSON numeral is: whole if it has neither a fraction nor an exponent. -/
def ofNumeral (n : Numeral) : Value :=
  match n.toInt? with
  | some i => .int i
  | Option.none => .float n

/-- The dictionary with text keys. -/
def dictOf (entries : List (String × Value)) : Value :=
  .dict (entries.map fun (key, value) => (.text key, value))

mutual

/-- The value that a JSON value stands for. -/
def ofJson : Json → Value
  | .null => .none
  | .bool b => .bool b
  | .number n => ofNumeral n
  | .string s => .text s
  | .array items => .list (allOfJson items)
  | .object members => dictOf (entriesOfMembers [] members)

/-- The values that several JSON values stand for. -/
def allOfJson : List Json → List Value
  | [] => []
  | j :: rest => ofJson j :: allOfJson rest

/-- The entries of a dictionary that is built member by member from those it has. -/
def entriesOfMembers (entries : List (String × Value)) :
    List (String × Json) → List (String × Value)
  | [] => entries
  | (key, j) :: rest => entriesOfMembers (setEntry key (ofJson j) entries) rest

end

/-! ## Looking into values -/

/-- Whether the value is the absent one. -/
def isNone : Value → Bool
  | .none => true
  | _ => false

/-- Whether the value is the text `s`. -/
def isText (v : Value) (s : String) : Bool :=
  match v with
  | .text t => t == s
  | _ => false

/-- The keys of a dictionary. -/
def keys? : Value → Option (List Value)
  | .dict entries => some (entries.map Prod.fst)
  | _ => Option.none

/-- What a dictionary has under a key. -/
def item? (v : Value) (name : String) : Option Value :=
  match v with
  | .dict entries => (entries.find? (·.1.isText name)).map Prod.snd
  | _ => Option.none

/-- The attribute with a name. -/
def attribute? (v : Value) (name : String) : Option Value :=
  match v with
  | .object attributes => attributes.lookup name
  | _ => Option.none

/-- The truth value that a value is or stands for. -/
def truth? : Value → Option Bool
  | .bool b => some b
  | .convertible _ truth? => truth?
  | _ => Option.none

/-- The whole number that a value is or stands for. A truth value counts as one or zero. -/
def whole? : Value → Option Int
  | .int n => some n
  | .bool b => some (if b then 1 else 0)
  | .convertible index? _ => index?
  | _ => Option.none

/-! ## Conversions -/

/-- The characters of a text. -/
def toText : Value → Except Fault String
  | .text s => .ok s
  | .brokenText units => .error (.noEncoding units)
  | _ => .error .wrongType

/-- The truth value of a value. Numbers have none. -/
def toFlag (v : Value) : Except Fault Bool :=
  match v.truth? with
  | some b => .ok b
  | Option.none => .error .wrongType

/-- The natural number of 64 bits that a value is. -/
def toCount (v : Value) : Except Fault Nat :=
  match v.whole? with
  | some n => if 0 ≤ n ∧ n < Nat.pow 2 64 then .ok n.toNat else .error .outOfRange
  | Option.none => .error .wrongType

/-- A record: a dictionary from texts to texts. -/
def toRecord : Value → Except Fault (Std.HashMap String String)
  | .dict entries => do
    return .ofList (← entries.mapM fun (name, content) => do
      return (← name.toText, ← content.toText))
  | _ => .error .wrongType

/-- A list of records. -/
def toRecords : Value → Except Fault (List (Std.HashMap String String))
  | .list items => items.mapM toRecord
  | _ => .error .wrongType

instance : Host Value Fault where
  isAbsent := isNone
  keys? := keys?
  getItem v name := .ok (v.item? name)
  getAttr v name :=
    match v.attribute? name with
    | some w => .ok w
    | Option.none => .error (.noAttribute name)
  text := toText
  flag := toFlag
  count := toCount
  record := toRecord
  records := toRecords

end Value

end RecordFilter.Scripting
