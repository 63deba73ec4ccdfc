/-
# Records of the wire format

Reading (`read?`) and writing (`record`) of message types, flags, TLV types and the capacities
of a message writer.  Flags are written as text.
-/
import RouteDiscovery.Record.Value
import RouteDiscovery.Wire.Writer

namespace RouteDiscovery.Wire

open Record

variable {v : Type} [Source v]

namespace MsgType

/-- The message type that a value writes. -/
def read? (value : v) : Option MsgType := (byte? value).map fun code => ⟨code⟩

def record (t : MsgType) : Value := .nat t.code.toNat

end MsgType

namespace MsgFlags

/-- The flags that a value writes. -/
def read? (value : v) : Option MsgFlags := do
  return ⟨← table.ofString? (← Source.text? value)⟩

def record (flags : MsgFlags) : Value := .text (table.text flags.bits)

end MsgFlags

namespace TlvFlags

/-- The flags that a value writes. -/
def read? (value : v) : Option TlvFlags := do
  return ⟨← table.ofString? (← Source.text? value)⟩

def record (flags : TlvFlags) : Value := .text (table.text flags.bits)

end TlvFlags

namespace TlvType

/-- The TLV type that a value writes. -/
def read? (value : v) : Option TlvType := do
  match ← fields? ["kind", "ext"] value with
  | [kind, ext] =>
    return { kind := ← required byte? kind, ext := ← optional byte? ext }
  | _ => none

def record (t : TlvType) : Value :=
  .object [("kind", .nat t.kind.toNat), ("ext", .ofOption (fun e => .nat e.toNat) t.ext)]

end TlvType

namespace WriterConfig

/-- The capacities that a value writes; missing ones have their defaults. -/
def read? (value : v) : Option WriterConfig := do
  match ← defaultedFields? ["msg_size", "addr_tlv_size", "packet_size"] value with
  | [msgSize, addrTlvSize, packetSize] =>
    let base : WriterConfig := {}
    return { msgSize := ← defaulted base.msgSize size? msgSize
             addrTlvSize := ← defaulted base.addrTlvSize size? addrTlvSize
             packetSize := ← defaulted base.packetSize size? packetSize }
  | _ => none

def record (c : WriterConfig) : Value :=
  .object [("msg_size", .nat c.msgSize), ("addr_tlv_size", .nat c.addrTlvSize),
           ("packet_size", .nat c.packetSize)]

end WriterConfig

end RouteDiscovery.Wire
