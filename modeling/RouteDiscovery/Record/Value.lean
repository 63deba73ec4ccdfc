/-
# Record values

Values as records are exchanged with other programs: nothing, truth values, whole numbers,
other numbers, texts, lists and objects.
-/
import RouteDiscovery.Record.Source

namespace RouteDiscovery.Record

/-- A value. -/
inductive Value where
  | null
  | bool (b : Bool)
  | int (n : Int)
  /-- A number written with a fraction or an exponent; no record has one. -/
  | fraction
  | text (s : String)
  | list (items : List Value)
  | object (members : List (String × Value))
deriving Repr, Inhabited

namespace Value

def nat (n : Nat) : Value := int n

/-- A value or nothing. -/
def ofOption {α : Type} (write : α → Value) : Option α → Value
  | none => null
  | some a => write a

/-- The number of a value that is a whole number and not negative. -/
def nat? : Value → Option Nat
  | int (.ofNat n) => some n
  | _ => none

def text? : Value → Option String
  | text s => some s
  | _ => none

def isNull : Value → Bool
  | null => true
  | _ => false

/-- The members of an object or a list. -/
def members? : Value → Option (Members Value)
  | object members => some (.named members)
  | list items => some (.listed items)
  | _ => none

instance : Source Value := ⟨nat?, text?, isNull, members?⟩

end Value

end RouteDiscovery.Record
