import RecordFilter.Expr.Parse
import RecordFilter.Json.Library

/-!
# Configuration

The two settings of a filter session, and how they are read from a document, which is the business
of a library: it is told which fields there are, and what is missing takes its default.
-/

namespace RecordFilter

/-- How many parsed filters are kept if nothing else is said. -/
def defaultCacheCapacity : Nat := 4096

/-- The settings of a session. -/
structure Config where
  /-- What is done about an opening parenthesis that is never closed. -/
  mode : ParseMode := .strict
  /-- How many parsed filters are kept; none are if it is zero. -/
  cacheCapacity : Nat := defaultCacheCapacity
deriving DecidableEq, Repr

/-- The mode in which unclosed parentheses are allowed or not. -/
def ParseMode.ofAllowed (unclosedAllowed : Bool) : ParseMode :=
  if unclosedAllowed then .permissive else .strict

/-- Whether unclosed parentheses are allowed. -/
def ParseMode.allowsUnclosed : ParseMode → Bool
  | .strict => false
  | .permissive => true

@[simp] theorem ParseMode.ofAllowed_allowsUnclosed (m : ParseMode) :
    ofAllowed m.allowsUnclosed = m := by
  cases m <;> rfl

@[simp] theorem ParseMode.allowsUnclosed_ofAllowed (b : Bool) :
    (ofAllowed b).allowsUnclosed = b := by
  cases b <;> rfl

namespace Config

/-- The key of the setting for unclosed parentheses. -/
def modeKey : String := "allow_unclosed_paren"

/-- The key of the setting for the capacity of the cache. -/
def capacityKey : String := "cache_capacity"

section Documents

variable {ε : Type} (lib : Json.Library ε)

/-- The two settings as the fields of an object. -/
def fields : List (Json.Field ε Config) :=
  [⟨modeKey, fun j c => do return { c with mode := .ofAllowed (← lib.flag j) }⟩,
   ⟨capacityKey, fun j c => do return { c with cacheCapacity := ← lib.count j }⟩]

/-- The configuration that a document gives. -/
def ofDocument (text : String) : Except Failure Config :=
  (lib.read (lib.record (fields lib) {}) text).mapError fun error =>
    .invalidConfig (lib.describe error)

end Documents

/-- The configuration that a document gives to the built-in library, if it gives one. Why it gives
none is for `ofDocument` to tell. -/
def ofJsonText? (text : String) : Option Config :=
  (ofDocument .builtIn text).toOption

end Config

end RecordFilter
