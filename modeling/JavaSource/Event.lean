/-!
# `Event` — log events as data

Operations say what they would log as a list of events, in order, next to their result. An event has a
level, a target (a dotted name of the part it comes from), a message and named fields.
-/

namespace JavaSource

/-- How severe an event is, and how much a log lets through. `off` lets nothing through. -/
inductive Level where
  | off
  | error
  | warn
  | info
  | debug
  | trace
  deriving DecidableEq, Repr, Inhabited

namespace Level

/-- All levels, from the one that lets nothing through to the one that lets everything through. -/
def all : List Level := [.off, .error, .warn, .info, .debug, .trace]

/-- The word for a level. -/
def word : Level → String
  | .off => "off"
  | .error => "error"
  | .warn => "warn"
  | .info => "info"
  | .debug => "debug"
  | .trace => "trace"

/-- The place of a level in `all`; what is more verbose comes later. -/
def rank : Level → Nat
  | .off => 0
  | .error => 1
  | .warn => 2
  | .info => 3
  | .debug => 4
  | .trace => 5

end Level

/-- The value of a field of an event. -/
inductive FieldValue where
  | text (s : String)
  | count (n : Nat)
  deriving DecidableEq, Repr

/-- A log event. -/
structure Event where
  level : Level
  target : String
  message : String
  fields : List (String × FieldValue)
  deriving DecidableEq, Repr

end JavaSource
