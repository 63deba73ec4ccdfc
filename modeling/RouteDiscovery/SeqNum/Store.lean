/-
# The node's sequence number

The store holds the number that is handed out next.  `reserve` hands it out, `release` takes a
number back if nothing was handed out after it, and `increment` moves on without handing out.
`Store.Op` are these operations as data, so that a history of the store is a list.
-/
import RouteDiscovery.SeqNum.Basic
import RouteDiscovery.Log.Outcome

namespace RouteDiscovery

open Log

/-- The store of the node's sequence number. -/
structure Store where
  /-- The number that is handed out next. -/
  value : SeqNum
deriving DecidableEq, Repr, Inhabited

namespace Store

/-- A store that starts at a number; the unknown number becomes the first one. -/
def startingAt (n : SeqNum) : Store := ⟨if n = SeqNum.unknown then SeqNum.initial else n⟩

/-- A store that starts at the first number. -/
def fresh : Store := startingAt SeqNum.initial

/-- The number that is handed out next. -/
def current (s : Store) : SeqNum := s.value

/-- The store one number further. -/
def advance (s : Store) : Store := ⟨s.value.next⟩

/-- The event of going one number further. -/
def advanceEvent (s : Store) : Event :=
  { level := .trace, message := "sequence number incremented",
    fields := [("from", .nat s.value.toNat), ("to", .nat s.advance.value.toNat)] }

/-- Goes one number further and answers the number reached. -/
def increment (s : Store) : Outcome Store SeqNum :=
  { answer := s.advance.value, state := s.advance, events := [s.advanceEvent] }

/-- Hands out the current number and goes one further. -/
def reserve (s : Store) : Outcome Store SeqNum :=
  { answer := s.value, state := s.advance, events := [s.advanceEvent] }

/-- Whether a number was the last one handed out. -/
def follows (s : Store) (issued : SeqNum) : Bool := s.value = issued.next

/-- Takes back a number that was never sent.  The store steps back only if nothing was handed
out after it, and answers whether it did. -/
def release (issued : SeqNum) (s : Store) : Outcome Store Bool :=
  { answer := s.follows issued
    state := if s.follows issued then ⟨issued⟩ else s
    events :=
      [{ level := .trace, message := "sequence number released",
         fields := [("issued", .nat issued.toNat), ("rolled_back", .bool (s.follows issued))] }] }

/-! ## Histories -/

/-- An operation on the store. -/
inductive Op where
  | current
  | increment
  | reserve
  | release (issued : SeqNum)
deriving DecidableEq, Repr

/-- What an operation answers. -/
inductive Answer where
  | number (n : SeqNum)
  | steppedBack (b : Bool)
deriving DecidableEq, Repr

/-- Carries out one operation. -/
def apply (s : Store) : Op → Outcome Store Answer
  | .current => { answer := .number s.current, state := s }
  | .increment => { s.increment with answer := .number s.increment.answer }
  | .reserve => { s.reserve with answer := .number s.reserve.answer }
  | .release n => { s.release n with answer := .steppedBack (s.release n).answer }

/-- Carries out one operation several times; the last answer counts. -/
def applyTimes (s : Store) (op : Op) : Nat → Outcome Store Answer
  | 0 | 1 => s.apply op
  | n + 2 =>
    let first := s.apply op
    let later := first.state.applyTimes op (n + 1)
    { later with events := first.events ++ later.events }

/-- Carries out a history, answer by answer. -/
def run (s : Store) : List Op → Outcome Store (List Answer)
  | [] => { answer := [], state := s }
  | op :: ops =>
    let first := s.apply op
    let later := first.state.run ops
    { answer := first.answer :: later.answer, state := later.state,
      events := first.events ++ later.events }

end Store

end RouteDiscovery
