import Std.Data.HashMap
import Std.Data.TreeMap

/-!
# Records

What a filter is checked against: anything that has a text for some field names. A field that a
record does not have reads as the empty text, so a filter cannot tell the two apart.

Four kinds of records are in use: two kinds of hash maps, sorted maps, and JSON objects. A record is
looked up and nothing else, and the two kinds of hash maps differ only in how they hash, which no
look-up shows. So one instance stands for both.
-/

namespace RecordFilter

/-- The types whose values can be filtered. -/
class Record (ρ : Type) where
  /-- The text of a field, if the record has it. -/
  field? : ρ → String → Option String

/-- The text of a field, empty if the record does not have it. -/
def Record.read {ρ : Type} [Record ρ] (r : ρ) (field : String) : String :=
  (Record.field? r field).getD ""

/-- Hash maps. How they hash is of no account. -/
instance : Record (Std.HashMap String String) where
  field? r field := r[field]?

instance : Record (Std.TreeMap String String) where
  field? r field := r[field]?

theorem field?_hashMap (r : Std.HashMap String String) (field : String) :
    Record.field? r field = r[field]? := rfl

theorem field?_treeMap (r : Std.TreeMap String String) (field : String) :
    Record.field? r field = r[field]? := rfl

end RecordFilter
