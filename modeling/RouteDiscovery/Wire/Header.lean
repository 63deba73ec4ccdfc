/-
# Packet and message headers

    packet:  <version:4><flags:4> <message>*
    message: <type:8> <flags:4><address width - 1:4> <size:16>
             [<originator>] [<hop limit:8>] [<hop count:8>] [<sequence number:16>]
             <tlv block> (<address block> <tlv block>)*

`MsgHeader.pieces` are the pieces that the header puts into the message buffer, in order.  The
size is put as zero and filled in when the message is complete.
-/
import RouteDiscovery.Wire.Buffer
import RouteDiscovery.Wire.Flags
import RouteDiscovery.Wire.NetAddr

namespace RouteDiscovery.Wire

/-- The version of the packet format. -/
def packetVersion : UInt8 := 0

/-- The byte before the first message: the version and no packet flags. -/
def packetHeader : UInt8 := packetVersion <<< 4

/-- The bytes of a message header before the optional fields. -/
def fixedHeaderLength : Nat := 4

/-- A message type. -/
structure MsgType where
  code : UInt8
deriving DecidableEq, Repr, Inhabited

instance : ToString MsgType := ⟨fun t => toString t.code⟩

/-- The header fields of a message. -/
structure MsgHeader where
  flags : MsgFlags := .empty
  originator : Option NetAddr := none
  /-- How far the message may still go. -/
  hopLimit : Option UInt8 := none
  /-- How far the message has come. -/
  hopCount : Option UInt8 := none
  seqNum : Option UInt16 := none
deriving DecidableEq, Repr

namespace MsgHeader

/-- The second byte: the flags, and the address width less one in the low half. -/
def flagsByte (h : MsgHeader) (width : Nat) : UInt8 :=
  h.flags.bits ||| ((width - 1) % 16).toUInt8

/-- A field that is present when its flag is set. -/
def field {α : Type} (h : MsgHeader) (flag : MsgFlags) (name : String) (value : Option α)
    (piece : α → Buffer.Piece) : List Buffer.Piece :=
  if h.flags.contains flag then
    [match value with
      | some v => piece v
      | none => .error (.missingField name)]
  else []

/-- The octets of the originator, whose width must be that of the message. -/
def originatorPiece (width : Nat) (a : NetAddr) : Buffer.Piece :=
  if a.length = width then .ok a.bytes else .error (.addressLength width a.length)

/-- The pieces of the header. -/
def pieces (h : MsgHeader) (type : MsgType) (width : Nat) : List Buffer.Piece :=
  [.ok [type.code], .ok [h.flagsByte width], .ok (wordBytes 0)] ++
    h.field .originator "originator" h.originator (originatorPiece width) ++
    h.field .hopLimit "hop-limit" h.hopLimit (fun n => .ok [n]) ++
    h.field .hopCount "hop-count" h.hopCount (fun n => .ok [n]) ++
    h.field .seqNum "seq-num" h.seqNum (fun n => .ok (wordBytes n))

/-- Writes the header; what was put before a failure stays in the buffer. -/
def encode (h : MsgHeader) (type : MsgType) (width : Nat) (b : Buffer) :
    Except WireError Unit × Buffer :=
  b.write (h.pieces type width)

end MsgHeader

end RouteDiscovery.Wire
