import RecordFilter.Error
import RecordFilter.Record

/-!
# Host languages

The library can be called from a language with dynamic types. What it asks of the language is a
`Host`: to look into a value that a caller passes and to convert it; and `Exceptions`: to make what
a call fails with. To look into a value is taken to have no effect of its own, so a value that calls
the library while it is looked at is left out.

Nothing is promised here about what a host answers.
-/

namespace RecordFilter.Scripting

/-- The types whose values a call can fail with. -/
class Exceptions (ε : Type) where
  /-- For a value that is not acceptable. -/
  valueError : String → ε
  /-- For what goes wrong in running. -/
  runtimeError : String → ε
  /-- For a class that cannot be called. -/
  noConstructor : ε
  /-- For a call that has to be awaited, made where nothing can await it. -/
  noEventLoop : ε
  /-- The wording, with the class of the exception in front. -/
  describe : ε → String

/-- The types whose values a caller can pass, with the exceptions of their language. -/
class Host (α : Type) (ε : outParam Type) where
  /-- Whether it is the value that stands for the absence of one. -/
  isAbsent : α → Bool
  /-- The keys of a dictionary, in order; other values have none. -/
  keys? : α → Option (List α)
  /-- What a dictionary has under a key, if it has the key. -/
  getItem : α → String → Except ε (Option α)
  /-- The attribute with a name. -/
  getAttr : α → String → Except ε α
  /-- The characters of a text. -/
  text : α → Except ε String
  /-- The truth value that a value is. -/
  flag : α → Except ε Bool
  /-- The natural number of 64 bits that a value is. -/
  count : α → Except ε Nat
  /-- The texts under the keys of a dictionary. -/
  record : α → Except ε (Std.HashMap String String)
  /-- Several records. -/
  records : α → Except ε (List (Std.HashMap String String))

/-- The exception that a failure is passed on as. -/
def raise {ε : Type} [Exceptions ε] (f : Failure) : ε :=
  match f with
  | .filter _ => Exceptions.valueError f.message
  | .invalidConfig _ => Exceptions.valueError f.message
  | .serialization _ => Exceptions.runtimeError f.message

end RecordFilter.Scripting
