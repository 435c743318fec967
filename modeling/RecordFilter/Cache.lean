import RecordFilter.Event

/-!
# The cache of parsed filters

Filters are checked against many records, so what their texts stand for is kept under the text
itself. A cache holds at most `capacity` filters; one that comes in when it is full finds it
emptied first. All filters of a cache were parsed in the mode of the cache, which is why `reset`,
which may change the mode, drops them.

Every parsed filter has a serial number, so that a stored one that is handed out again can be told
from one that was parsed anew.
-/

namespace RecordFilter

/-- A filter that has been parsed, and when. -/
structure ParsedFilter where
  expr : Expr
  serial : Nat

/-- Parsed filters by their texts. -/
structure Cache where
  /-- The mode in which filters are parsed. -/
  mode : ParseMode
  /-- How many filters are kept at most; none are if it is zero. -/
  capacity : Nat
  /-- The filters that are kept. -/
  entries : Std.HashMap String ParsedFilter
  /-- The serial number of the next filter to be parsed. -/
  nextSerial : Nat

namespace Cache

/-- A cache that holds nothing yet. -/
def empty (capacity : Nat) (mode : ParseMode) : Cache :=
  ⟨mode, capacity, ∅, 0⟩

/-- How many filters are kept. -/
def size (cache : Cache) : Nat :=
  cache.entries.size

/-- Drops all filters. -/
def clear (cache : Cache) : Cache :=
  { cache with entries := ∅ }

/-- Drops all filters and changes the settings. -/
def reset (cache : Cache) (capacity : Nat) (mode : ParseMode) : Cache :=
  { cache.clear with capacity, mode }

/-- Whether the next filter to be stored finds no room. -/
def isFull (cache : Cache) : Bool :=
  cache.capacity ≤ cache.size

/-- Makes room for one more filter. -/
def makeRoom (cache : Cache) : Cache :=
  if cache.isFull then cache.clear else cache

/-- Whether a filter that was parsed in the mode is kept. The mode of the cache is another one if
the cache has been reset since the filter was looked up. -/
def keeps (cache : Cache) (parsedIn : ParseMode) : Bool :=
  cache.capacity ≠ 0 && cache.mode == parsedIn

/-- Takes in a filter that was parsed in the mode. -/
def store (cache : Cache) (parsedIn : ParseMode) (filter : String) (parsed : ParsedFilter) :
    Cache :=
  if cache.keeps parsedIn then
    let cache := cache.makeRoom
    { cache with entries := cache.entries.insert filter parsed }
  else cache

/-- What taking in a filter reports. -/
def storeEvents (cache : Cache) (parsedIn : ParseMode) : List Event :=
  if cache.keeps parsedIn && cache.isFull then [.cacheFull cache.size] else []

/-- Parses a filter that is not kept, and takes it in. One that cannot be parsed changes nothing. -/
def miss (cache : Cache) (filter : String) : Reply Cache (Except FilterError ParsedFilter) :=
  match parse cache.mode filter with
  | .error e => ⟨.error e, cache, parseEvents filter⟩
  | .ok expr =>
    let parsed : ParsedFilter := ⟨expr, cache.nextSerial⟩
    let after := cache.store cache.mode filter parsed
    ⟨.ok parsed, { after with nextSerial := cache.nextSerial + 1 },
      parseEvents filter ++ cache.storeEvents cache.mode⟩

/-- The filter with the text, kept or parsed. -/
def get (cache : Cache) (filter : String) : Reply Cache (Except FilterError ParsedFilter) :=
  match cache.entries[filter]? with
  | some parsed => ⟨.ok parsed, cache, []⟩
  | none => cache.miss filter

@[simp] theorem size_empty (capacity : Nat) (mode : ParseMode) :
    (empty capacity mode).size = 0 := rfl

@[simp] theorem size_clear (cache : Cache) : cache.clear.size = 0 := rfl

@[simp] theorem size_reset (cache : Cache) (capacity : Nat) (mode : ParseMode) :
    (cache.reset capacity mode).size = 0 := rfl

theorem get_of_some {cache : Cache} {filter : String} {parsed : ParsedFilter}
    (h : cache.entries[filter]? = some parsed) : cache.get filter = ⟨.ok parsed, cache, []⟩ := by
  simp [get, h]

theorem get_of_none {cache : Cache} {filter : String}
    (h : cache.entries[filter]? = none) : cache.get filter = cache.miss filter := by
  simp [get, h]

end Cache

end RecordFilter
