import RecordFilter.Expr.Json
import RecordFilter.Expr.Render
import RecordFilter.Scripting.Settings
import RecordFilter.Scripting.Value
import RecordFilter.Session

/-!
# Calls from a scripting language

The operations of a session with arguments that have to be converted first. Whether an argument can
be converted is settled before anything else happens, so a call that fails for the type of an
argument has no effect.

Of a call to be awaited there is only its answer: the task that it runs in is left out, and so is
what may go wrong with the task itself.
-/

namespace RecordFilter.Scripting

variable {α ε : Type} [Exceptions ε]

/-- What a call that has converted its arguments makes of them. -/
def withArguments {β γ : Type} (s : Session) (arguments : Except ε β)
    (call : β → Reply Session (Except FilterError γ)) : Reply Session (Except ε γ) :=
  match arguments with
  | .error e => ⟨.error e, s, []⟩
  | .ok a =>
    let reply := call a
    ⟨reply.answer.mapError fun cause => raise (.filter cause), reply.state, reply.events⟩

/-- Filters are handed out by `parseFilter` only: their class cannot be called. -/
def newFilter : Except ε Expr :=
  .error Exceptions.noConstructor

/-- The document of a filter that has been handed out. -/
def treeDocument {δ : Type} (lib : Json.Library δ) (code : Expr.Coding δ) (e : Expr) :
    Except ε String :=
  (e.toDocument lib code).mapError raise

/-- How a filter that has been handed out shows itself. -/
def representation (e : Expr) : String :=
  "Filter(" ++ Literal.ofString e.render ++ ")"

/-- The names that a calling program can use, in order. -/
def publicNames : List String :=
  ["Filter", "canonicalize", "check_filter", "filter_records", "filter_records_async",
   "init_config", "is_config_initialized", "parse_filter"]

variable [Host α ε]

/-- The configuration that an argument describes, the default one if there is none. -/
def configArgument (config? : Option α) : Except ε Config :=
  match config? with
  | none => .ok {}
  | some config => if Host.isAbsent config then .ok {} else configOf config

/-- Installs the configuration that the argument describes. -/
def initConfig (s : Session) (config? : Option α) : Reply Session (Except ε Unit) :=
  match configArgument config? with
  | .error e => ⟨.error e, s, []⟩
  | .ok config =>
    let reply := s.install config
    ⟨.ok (), reply.state, reply.events⟩

/-- Parses a filter and hands out its tree. -/
def parseFilter (s : Session) (filter : α) : Reply Session (Except ε Expr) :=
  withArguments s (Host.text filter) fun text =>
    let reply := s.get text
    ⟨reply.answer.map (·.expr), reply.state, reply.events⟩

/-- The canonical form of a filter. -/
def canonicalize (s : Session) (filter : α) : Reply Session (Except ε String) :=
  let reply := parseFilter s filter
  ⟨reply.answer.map Expr.render, reply.state, reply.events⟩

/-- Whether a record passes a filter. -/
def checkFilter (s : Session) (filter record : α) : Reply Session (Except ε Bool) :=
  let arguments := do return (← Host.text filter, ← Host.record record)
  withArguments s arguments fun (text, record) => s.check text record

/-- The places of the records that pass a filter. -/
def filterRecords (s : Session) (filter records : α) : Reply Session (Except ε (List Nat)) :=
  let arguments := do return (← Host.text filter, ← Host.records records)
  withArguments s arguments fun (text, records) => s.filterRecords text records

/-- The same as a call to be awaited, which fails where no event loop is running. -/
def filterRecordsAsync (s : Session) (loopIsRunning : Bool) (filter records : α) :
    Reply Session (Except ε (List Nat)) :=
  let arguments := do return (← Host.text filter, ← Host.records records)
  if loopIsRunning then filterRecords s filter records
  else
    match arguments with
    | .ok _ => ⟨.error Exceptions.noEventLoop, s, []⟩
    | .error e => ⟨.error e, s, []⟩

/-- Whether a record passes a filter that has been handed out. -/
def evaluate (e : Expr) (record : α) : Except ε Bool := do
  return e.eval (← Host.record record)

end RecordFilter.Scripting
