/-
# Log lines

An event becomes `[time] [component] [LEVEL] message name=value …`.  The component column is
always eighteen characters wide (`componentColumn`), the level column five.  On a terminal the
time and the level are coloured.
-/
import RouteDiscovery.Log.Event

namespace RouteDiscovery.Log

def componentWidth : Nat := 18

def levelWidth : Nat := 5

/-- The name of a component of a service. -/
def componentName (service : String) : Option String → String
  | some component => service ++ "-" ++ component
  | none => service

/-- A name in a column: filled up with spaces, or cut and ended by an ellipsis. -/
def columnChars (width : Nat) (name : List Char) : List Char :=
  if name.length ≤ width then name.rightpad width ' ' else name.take (width - 1) ++ ['…']

/-- A column is as wide as it should be. -/
theorem length_columnChars {width : Nat} (h : 0 < width) (name : List Char) :
    (columnChars width name).length = width := by
  unfold columnChars
  split
  · next hle => simp [List.rightpad]; omega
  · next hlt => simp; omega

/-- The component column of a service. -/
def componentColumn (service : String) (component : Option String) : String :=
  String.ofList (columnChars componentWidth (componentName service component).toList)

def levelColumn (level : Level) : String :=
  String.ofList (level.name.toList.rightpad levelWidth ' ')

namespace Color

/-- The escape sequence with a parameter. -/
def sequence (parameter : Nat) : String := "\x1b[" ++ toString parameter ++ "m"

def reset : String := sequence 0

def cyan : String := sequence 36

def green : String := sequence 32

def brightYellow : String := sequence 93

def brightRed : String := sequence 91

def brightGray : String := sequence 90

def ofLevel : Level → String
  | .error => brightRed
  | .warn => brightYellow
  | .info => green
  | .debug | .trace => brightGray

end Color

/-- How lines are written. -/
structure LineStyle where
  service : String
  colored : Bool
deriving DecidableEq, Repr

namespace LineStyle

/-- The style of a service on the terminal that the variable `TERM` names: colours are used if
it is set to anything but `dumb`. -/
def ofTerm (service : String) (term : Option String) : LineStyle :=
  ⟨service, match term with
    | some t => t != "dumb"
    | none => false⟩

def paint (style : LineStyle) (color : String) : String := if style.colored then color else ""

/-- The fields, each after a space. -/
def fieldsText (fields : List (String × FieldValue)) : String :=
  String.join (fields.map fun f => " " ++ f.1 ++ "=" ++ f.2.text)

/-- The line of an event, without its final newline. -/
def lineText (style : LineStyle) (time : String) (e : Event) : String :=
  style.paint Color.cyan ++ "[" ++ time ++ "]" ++ style.paint Color.reset ++
    " [" ++ componentColumn style.service e.component ++ "] [" ++
    style.paint (Color.ofLevel e.level) ++ levelColumn e.level ++ style.paint Color.reset ++ "] " ++
    Text.unquoted e.message ++ fieldsText e.fields

/-- What is written for an event. -/
def line (style : LineStyle) (time : String) (e : Event) : String :=
  style.lineText time e ++ "\n"

end LineStyle

end RouteDiscovery.Log
