/-
# Sources of records

Records are read from trees of data in more than one format.  A format says which values write
numbers and texts, which stand for nothing, and which have members (`Source`).  A record is
written as a mapping from names to values or, in formats that allow it, as the list of its values
in order.

* In a mapping unknown names are ignored, and a known name may stand only once.
* A list may be shorter than the record only if the record has defaults, and never longer.
-/

namespace RouteDiscovery.Record

/-- The members of a record as they are written. -/
inductive Members (v : Type) where
  /-- Names with values. -/
  | named (entries : List (String × v))
  /-- The values in the order of the record. -/
  | listed (values : List v)

/-- A format from which records are read; `v` are its values. -/
class Source (v : Type) where
  nat? : v → Option Nat
  text? : v → Option String
  /-- Whether a value stands for nothing. -/
  isNothing : v → Bool
  members? : v → Option (Members v)

variable {v : Type}

/-- The value of a name; fails if the name stands more than once. -/
def Members.find? (entries : List (String × v)) (name : String) : Option (Option v) :=
  match entries.filter fun e => e.1 == name with
  | [] => some none
  | [e] => some (some e.2)
  | _ => none

/-- The values of the named fields, as far as they are given. -/
def Members.select? (fields : List String) (hasDefaults : Bool) :
    Members v → Option (List (Option v))
  | .named entries => fields.mapM (Members.find? entries)
  | .listed values =>
    if values.length = fields.length ∨ (hasDefaults ∧ values.length < fields.length) then
      some (values.map some ++ List.replicate (fields.length - values.length) none)
    else none

variable [Source v]

/-- A number below a bound. -/
def natBelow? (bound : Nat) (value : v) : Option Nat :=
  (Source.nat? value).filter (· < bound)

def byte? (value : v) : Option UInt8 := (natBelow? UInt8.size value).map Nat.toUInt8

def word16? (value : v) : Option UInt16 := (natBelow? UInt16.size value).map Nat.toUInt16

def word32? (value : v) : Option UInt32 := (natBelow? UInt32.size value).map Nat.toUInt32

def word64? (value : v) : Option UInt64 := (natBelow? UInt64.size value).map Nat.toUInt64

/-- A size: a number that fits sixty-four bits. -/
def size? (value : v) : Option Nat := natBelow? UInt64.size value

/-- The values of the named fields of a record that has no defaults. -/
def fields? (names : List String) (value : v) : Option (List (Option v)) := do
  (← Source.members? value).select? names false

/-- The values of the named fields of a record with defaults. -/
def defaultedFields? (names : List String) (value : v) : Option (List (Option v)) := do
  (← Source.members? value).select? names true

/-- Reads a field that must be given. -/
def required {α : Type} (read : v → Option α) (field : Option v) : Option α :=
  field.bind read

/-- Reads a field that may be missing or stand for nothing. -/
def optional {α : Type} (read : v → Option α) : Option v → Option (Option α)
  | none => some none
  | some value => if Source.isNothing value then some none else (read value).map some

/-- Reads a field that has a default. -/
def defaulted {α : Type} (default : α) (read : v → Option α) : Option v → Option α
  | none => some default
  | some value => read value

end RouteDiscovery.Record
