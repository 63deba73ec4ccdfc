/-
# Bounded buffers

A buffer never holds more bytes than its capacity.  A put either appends all its bytes or
changes nothing and says how many bytes it needed and how many were left.  `Buffer.write` puts
one piece after another and stops at the first that fails.
-/
import RouteDiscovery.Wire.Error
import RouteDiscovery.Word

namespace RouteDiscovery.Wire

/-- The largest number that two octets hold. -/
def maxWord : Nat := 65535

/-- A byte buffer with a capacity. -/
structure Buffer where
  kind : BufferKind
  /-- The most bytes that it may hold. -/
  capacity : Nat
  bytes : List UInt8 := []
deriving DecidableEq, Repr

namespace Buffer

def length (b : Buffer) : Nat := b.bytes.length

def isEmpty (b : Buffer) : Bool := b.bytes.isEmpty

/-- The number of bytes that still fit. -/
def remaining (b : Buffer) : Nat := b.capacity - b.length

/-- Fails unless the given number of bytes fits. -/
def ensure (b : Buffer) (needed : Nat) : Except WireError Unit :=
  if needed ≤ b.remaining then .ok () else .error (.capacity b.kind needed b.remaining)

/-- Appends bytes. -/
def put (b : Buffer) (data : List UInt8) : Except WireError Buffer := do
  b.ensure data.length
  return { b with bytes := b.bytes ++ data }

/-- Bytes that fit are appended. -/
theorem put_of_le {b : Buffer} {data : List UInt8} (h : data.length ≤ b.remaining) :
    b.put data = .ok { b with bytes := b.bytes ++ data } := by
  unfold put ensure
  rw [if_pos h]
  rfl

/-- Bytes that do not fit are refused with their number and the room that is left. -/
theorem put_of_lt {b : Buffer} {data : List UInt8} (h : b.remaining < data.length) :
    b.put data = .error (.capacity b.kind data.length b.remaining) := by
  unfold put ensure
  rw [if_neg (Nat.not_le.2 h)]
  rfl

def putByte (b : Buffer) (value : UInt8) : Except WireError Buffer := b.put [value]

def putWord (b : Buffer) (value : UInt16) : Except WireError Buffer := b.put (wordBytes value)

/-- Replaces the word at an offset; there is none unless both its bytes are written. -/
def patchWord? (b : Buffer) (offset : Nat) (value : UInt16) : Option Buffer :=
  if offset + 2 ≤ b.length then
    some { b with bytes := b.bytes.take offset ++ wordBytes value ++ b.bytes.drop (offset + 2) }
  else none

def clear (b : Buffer) : Buffer := { b with bytes := [] }

/-! ## Pieces -/

/-- Bytes that are put together, or the reason why there are none. -/
abbrev Piece := Except WireError (List UInt8)

/-- Puts pieces up to the first that fails; what was put before it stays. -/
def write (b : Buffer) : List Piece → Except WireError Unit × Buffer
  | [] => (.ok (), b)
  | .error e :: _ => (.error e, b)
  | .ok data :: rest =>
    match b.put data with
    | .error e => (.error e, b)
    | .ok b' => b'.write rest

/-- Puts all pieces, or fails with the first error. -/
def writeAll (b : Buffer) (pieces : List Piece) : Except WireError Buffer :=
  match b.write pieces with
  | (.ok (), b') => .ok b'
  | (.error e, _) => .error e

end Buffer

/-- The value of a length field of two octets. -/
def lengthField (length : Nat) : Except WireError UInt16 :=
  if length ≤ maxWord then .ok length.toUInt16
  else .error (.capacity .message length maxWord)

end RouteDiscovery.Wire
