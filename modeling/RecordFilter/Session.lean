import RecordFilter.Cache
import RecordFilter.Expr.Eval

/-!
# Sessions

A session has one configuration and one cache that all its operations share. Until a configuration
is installed the default one is active. The cache is created by the first operation that needs it,
and follows the configuration that is active then. Installing a configuration publishes it and then
resets the cache to it; the two are separate steps, and between them a cache that has been created
still follows the configuration before.

The empty text is the filter that every record passes. It is answered without the cache.

Operations follow one another here. What those that run at once may do to each other is left out,
but for installations, whose two steps stand apart for its sake.
-/

namespace RecordFilter

/-- The state of a session. -/
structure Session where
  /-- The configuration that was installed last, if any. -/
  installed : Option Config
  /-- The cache of parsed filters, once it has been created. -/
  created : Option Cache

namespace Session

/-- A session in which nothing has been installed. -/
def fresh : Session :=
  ⟨none, none⟩

/-- The configuration in force. -/
def active (s : Session) : Config :=
  s.installed.getD {}

/-- Whether a configuration has been installed. -/
def isInitialized (s : Session) : Bool :=
  s.installed.isSome

/-- The cache of parsed filters, which is created now if it has not been yet. -/
def cache (s : Session) : Cache :=
  s.created.getD (.empty s.active.cacheCapacity s.active.mode)

/-- The session with the cache given. -/
def withCache (s : Session) (cache : Cache) : Session :=
  { s with created := some cache }

/-- Makes a configuration the active one. -/
def publish (s : Session) (c : Config) : Session :=
  { s with installed := some c }

/-- Resets the cache to a configuration. -/
def resetCache (s : Session) (c : Config) : Session :=
  s.withCache (s.cache.reset c.cacheCapacity c.mode)

/-- Installs a configuration. -/
def install (s : Session) (c : Config) : Reply Session Unit :=
  ⟨(), (s.publish c).resetCache c, [.installing c]⟩

/-- Installs the configuration that a JSON document describes, and says which one it was. A
document that describes none changes nothing. -/
def installJson (s : Session) (text : String) : Reply Session (Option Config) :=
  match Config.ofJsonText? text with
  | some c =>
    let reply := s.install c
    ⟨some c, reply.state, reply.events⟩
  | none => ⟨none, s, []⟩

/-- Drops all parsed filters. -/
def clearCache (s : Session) : Session :=
  s.withCache s.cache.clear

/-- How many parsed filters are kept. -/
def cacheSize (s : Session) : Reply Session Nat :=
  ⟨s.cache.size, s.withCache s.cache, []⟩

/-- The filter with the text, kept or parsed. -/
def get (s : Session) (filter : String) : Reply Session (Except FilterError ParsedFilter) :=
  let reply := s.cache.get filter
  ⟨reply.answer, s.withCache reply.state, reply.events⟩

variable {ρ : Type} [Record ρ]

/-- Whether a record passes the filter. -/
def check (s : Session) (filter : String) (record : ρ) : Reply Session (Except FilterError Bool) :=
  if filter = "" then ⟨.ok true, s, []⟩
  else
    let reply := s.get filter
    ⟨reply.answer.map (·.expr.eval record), reply.state, reply.events⟩

/-- The places of the records that pass the filter, in order. -/
def filterRecords (s : Session) (filter : String) (records : List ρ) :
    Reply Session (Except FilterError (List Nat)) :=
  if filter = "" then ⟨.ok (List.range records.length), s, []⟩
  else
    let reply := s.get filter
    match reply.answer with
    | .error e => ⟨.error e, reply.state, reply.events⟩
    | .ok parsed =>
      let indices := matchingIndices parsed.expr records
      ⟨.ok indices, reply.state,
        reply.events ++ [.filtered filter records.length indices.length]⟩

@[simp] theorem active_fresh : fresh.active = {} := rfl

@[simp] theorem active_withCache (s : Session) (cache : Cache) :
    (s.withCache cache).active = s.active := rfl

@[simp] theorem installed_withCache (s : Session) (cache : Cache) :
    (s.withCache cache).installed = s.installed := rfl

@[simp] theorem cache_withCache (s : Session) (cache : Cache) :
    (s.withCache cache).cache = cache := rfl

@[simp] theorem cache_fresh : fresh.cache = .empty defaultCacheCapacity .strict := rfl

@[simp] theorem active_publish (s : Session) (c : Config) : (s.publish c).active = c := rfl

@[simp] theorem active_resetCache (s : Session) (c : Config) :
    (s.resetCache c).active = s.active := rfl

@[simp] theorem active_install (s : Session) (c : Config) : (s.install c).state.active = c := rfl

end Session

end RecordFilter
