/-!
# Log events

What the program reports about its work: events with a level, a target that says which part of
the program speaks, a message, and named values.
-/

namespace ClientOrigin

/-- How important an event is, from the most detailed to the most important level. -/
inductive LogLevel where
  | trace
  | debug
  | info
  | warn
  | error
  deriving DecidableEq, Repr

namespace LogLevel

/-- The name of the level. -/
def name : LogLevel → String
  | .trace => "TRACE"
  | .debug => "DEBUG"
  | .info => "INFO"
  | .warn => "WARN"
  | .error => "ERROR"

/-- The position of the level, counted from the most important one. -/
def verbosity : LogLevel → Nat
  | .error => 1
  | .warn => 2
  | .info => 3
  | .debug => 4
  | .trace => 5

end LogLevel

/-- A value in an event.  Values that are shown in their own form and values that are text differ
in a written log only: text is quoted there. -/
inductive LogValue where
  | shown (form : String)
  | text (content : String)
  | number (value : Nat)
  | flag (value : Bool)
  deriving DecidableEq, Repr

/-- An event happens at one time; a span covers the work that follows. -/
inductive LogKind where
  | event
  | span
  deriving DecidableEq, Repr

/-- One entry of the log.  The text is the message of an event or the name of a span. -/
structure LogEvent where
  kind : LogKind
  level : LogLevel
  target : String
  text : String
  fields : List (String × LogValue)
  deriving DecidableEq, Repr

/-- The entry has a field of the name; the message is a field of an event. -/
def LogEvent.hasField (e : LogEvent) (name : List Char) : Bool :=
  name = "message".toList || e.fields.any fun field => field.1.toList = name

end ClientOrigin
