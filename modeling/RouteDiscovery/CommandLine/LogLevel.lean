/-
# The level of the log

The level is a name, in upper or lower case, or a number from 0 (off) to 5 (everything).  No text
at all also stands for everything.  A comma may end the level; nothing but blanks may follow it.
-/
import RouteDiscovery.Log.Event
import RouteDiscovery.Text.Blank
import RouteDiscovery.Text.Numeral

namespace RouteDiscovery.Log

/-- Why a text is no level. -/
inductive LevelError where
  /-- It is neither a name nor a number of a level. -/
  | unknown
  /-- Something follows the comma. -/
  | malformed
deriving DecidableEq, Repr

/-- The levels by their names. -/
def Filter.names : List (String × Filter) :=
  [("off", .off), ("error", .upTo .error), ("warn", .upTo .warn), ("info", .upTo .info),
   ("debug", .upTo .debug), ("trace", .upTo .trace)]

/-- The level that a number or a name writes. -/
def Filter.ofName? (s : List Char) : Option Filter :=
  match Text.bounded? 10 Filter.names.length s with
  | some n => (Filter.names[n]?).map (·.2)
  | none => Filter.names.lookup (String.ofList (s.map Char.toLower))

/-- The level that a text writes; an empty text writes the least severe one. -/
def Filter.ofChars (s : List Char) : Except LevelError Filter :=
  if s.isEmpty then .ok (.upTo .trace)
  else match Filter.ofName? s with
    | some f => .ok f
    | none => .error .unknown

/-- The text without the blanks at its end. -/
def trimEnd (s : List Char) : List Char := (s.reverse.dropWhile Text.isBlank).reverse

/-- The level that an argument writes. -/
def Filter.ofString (text : String) : Except LevelError Filter :=
  let s := text.toList
  match (trimEnd s).dropWhile (· ≠ ',') with
  | [] => Filter.ofChars s
  | _ :: rest => do
    let f ← Filter.ofChars (s.takeWhile (· ≠ ','))
    if rest.isEmpty then return f else throw .malformed

end RouteDiscovery.Log
