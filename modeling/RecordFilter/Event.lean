import RecordFilter.Config

/-!
# Events

What the library reports while it works, in the order in which it happens. Every operation that
reports gives back a `Reply`, which holds its answer, the state after it, and its events.
-/

namespace RecordFilter

/-- How important an event is. -/
inductive Level where
  | info
  | debug
  | trace
deriving DecidableEq, Repr

/-- Something worth reporting. -/
inductive Event where
  /-- A filter text was read as `count` tokens. -/
  | tokenized (count : Nat)
  /-- One of those tokens. -/
  | token (t : Token)
  /-- A cache with `size` entries was full and was emptied. -/
  | cacheFull (size : Nat)
  /-- `matched` of `total` records passed the filter. -/
  | filtered (filter : String) (total matched : Nat)
  /-- A configuration is being installed. -/
  | installing (config : Config)
deriving DecidableEq, Repr

/-- The level at which the event is reported. -/
def Event.level : Event → Level
  | .tokenized _ => .debug
  | .token _ => .trace
  | .cacheFull _ => .debug
  | .filtered _ _ _ => .debug
  | .installing _ => .info

/-- What the event says, its details apart. -/
def Event.message : Event → String
  | .tokenized _ => "tokenized filter"
  | .token _ => "token"
  | .cacheFull _ => "filter cache full, clearing"
  | .filtered _ _ _ => "filtered records"
  | .installing _ => "installing filter config"

/-- What the parsing of a text reports: its tokens, whether or not they make an expression. -/
def parseEvents (input : String) : List Event :=
  match tokenize input with
  | .ok ts => .tokenized ts.length :: ts.map .token
  | .error _ => []

/-- What an operation on a state `σ` leaves behind. -/
structure Reply (σ α : Type) where
  answer : α
  state : σ
  events : List Event

end RecordFilter
