/-
# Log events

An event has a level, an optional component, a message and named fields in the order in which
they were given.  `Filter.admits` tells which levels a maximum level lets through, and
`FieldValue.text` how a field's value is written.
-/
import RouteDiscovery.Text.Quoted

namespace RouteDiscovery.Log

/-- How severe an event is. -/
inductive Level where
  | trace
  | debug
  | info
  | warn
  | error
deriving DecidableEq, Repr, Inhabited

namespace Level

/-- The severity as a number; a more severe level has a larger one. -/
def severity : Level → Nat
  | trace => 0
  | debug => 1
  | info => 2
  | warn => 3
  | error => 4

def name : Level → String
  | trace => "TRACE"
  | debug => "DEBUG"
  | info => "INFO"
  | warn => "WARN"
  | error => "ERROR"

end Level

/-- The least severe level that is still shown; with `off` nothing is. -/
inductive Filter where
  | off
  | upTo (level : Level)
deriving DecidableEq, Repr, Inhabited

/-- Whether events of a level are shown. -/
def Filter.admits : Filter → Level → Bool
  | off, _ => false
  | upTo least, level => least.severity ≤ level.severity

/-- The value of a field, by the way in which it is shown. -/
inductive FieldValue where
  /-- A string, kept as it is. -/
  | verbatim (text : String)
  /-- A value shown by its own text. -/
  | shown (text : String)
  /-- A string shown quoted. -/
  | quoted (text : String)
  | nat (n : Nat)
  | int (n : Int)
  | bool (b : Bool)
deriving DecidableEq, Repr, Inhabited

/-- What stands in the log line: all but verbatim strings lose one pair of surrounding quotes. -/
def FieldValue.text : FieldValue → String
  | verbatim s => s
  | shown s => Text.unquoted s
  | quoted s => Text.unquoted (Text.quoted s)
  | nat n => toString n
  | int n => toString n
  | bool b => if b then "true" else "false"

/-- One event. -/
structure Event where
  level : Level
  /-- The part of the program that it concerns, kept as it is. -/
  component : Option String := none
  /-- What happened; shown without one pair of surrounding quotes. -/
  message : String
  fields : List (String × FieldValue) := []
deriving DecidableEq, Repr, Inhabited

/-- The events that a filter lets through. -/
def Filter.select (filter : Filter) (events : List Event) : List Event :=
  events.filter fun e => filter.admits e.level

/-- An event at `info` that names its component. -/
def Event.componentInfo (component message : String) : Event :=
  { level := .info, component := some component, message }

/-- An event at `warn` that names its component. -/
def Event.componentWarn (component message : String) : Event :=
  { level := .warn, component := some component, message }

end RouteDiscovery.Log
