/-
# Messages under construction

A draft collects header fields, addresses and address TLVs of one message.  `Draft.answer`
carries out a call of the content provider and answers it; a call that is rejected leaves the
draft as it was.

* Addresses are kept in the order in which they were first added; adding one again gives its
  index, and the mandatory mark stays once it is set.
* The values of the TLVs lie one after another in an arena of limited size; an entry tells
  where its value lies.  `Draft.tlvs` resolves the entries.

`Draft.encode` writes the message: header, empty message TLV block, and, if there are addresses,
one address block with its TLVs in the order of the declared table and then of the addresses.
-/
import RouteDiscovery.Wire.Header
import RouteDiscovery.Wire.Tlv

namespace RouteDiscovery.Wire

/-- The most addresses of a message. -/
def maxAddresses : Nat := 255

/-- An address of a draft. -/
structure DraftAddress where
  addr : NetAddr
  /-- Whether the message makes no sense without it. -/
  mandatory : Bool
deriving DecidableEq, Repr

/-- A TLV of a draft. -/
structure TlvEntry where
  /-- The position of its type in the declared table. -/
  position : Nat
  index : Nat
  /-- Where its value starts in the arena. -/
  start : Nat
  length : Nat
deriving DecidableEq, Repr

/-- A message under construction. -/
structure Draft where
  width : Nat
  declared : List TlvType
  header : MsgHeader := {}
  addresses : List DraftAddress := []
  /-- The TLVs in the order of the calls. -/
  entries : List TlvEntry := []
  arena : Buffer
deriving DecidableEq, Repr

/-! ## Calls -/

/-- A call that a content provider makes on the draft of its message. -/
inductive Call where
  /-- Selects the optional header fields. -/
  | setFlags (flags : MsgFlags)
  | setHopLimit (n : UInt8)
  | setHopCount (n : UInt8)
  | setOriginator (addr : NetAddr)
  | setSeqNum (n : UInt16)
  | addAddress (addr : NetAddr) (mandatory : Bool)
  /-- Adds a TLV to the address at an index. -/
  | addTlv (index : Nat) (type : TlvType) (value : List UInt8) (allowDuplicate : Bool)
  | addressCount
deriving DecidableEq, Repr

/-- What a call is answered with. -/
abbrev Call.Answer : Call → Type
  | .addAddress .. => Except WireError Nat
  | .addTlv .. => Except WireError Unit
  | .addressCount => Nat
  | _ => Unit

namespace Draft

/-- The draft of a message of which nothing is known but its width, its table and its arena. -/
def start (width : Nat) (declared : List TlvType) (arenaSize : Nat) : Draft :=
  { width, declared, arena := { kind := .addressTlv, capacity := arenaSize } }

/-- The index of an address. -/
def indexOf? (d : Draft) (addr : NetAddr) : Option Nat :=
  d.addresses.findIdx? fun a => a.addr = addr

/-- The draft in which the address at an index is marked as mandatory if the mark says so. -/
def mark (d : Draft) (index : Nat) (mandatory : Bool) : Draft :=
  { d with
    addresses :=
      d.addresses.modify index fun a => { a with mandatory := a.mandatory || mandatory } }

/-- Adds an address and gives its index. -/
def addAddress (d : Draft) (addr : NetAddr) (mandatory : Bool) : Except WireError (Nat × Draft) :=
  if addr.length ≠ d.width then .error (.addressLength d.width addr.length)
  else match d.indexOf? addr with
    | some index => .ok (index, d.mark index mandatory)
    | none =>
      if maxAddresses ≤ d.addresses.length then .error .tooManyAddresses
      else .ok (d.addresses.length, { d with addresses := d.addresses ++ [⟨addr, mandatory⟩] })

/-- The position of a TLV type in the declared table. -/
def positionOf? (d : Draft) (type : TlvType) : Option Nat :=
  d.declared.findIdx? (· = type)

/-- Whether the address at an index has a TLV of the type at a position. -/
def hasTlv (d : Draft) (position index : Nat) : Bool :=
  d.entries.any fun e => e.position = position ∧ e.index = index

/-- Adds a TLV to the address at an index. -/
def addTlv (d : Draft) (index : Nat) (type : TlvType) (value : List UInt8)
    (allowDuplicate : Bool) : Except WireError Draft :=
  match d.positionOf? type with
  | none => .error (.undeclaredTlv type.kind)
  | some position =>
    if d.addresses.length ≤ index then .error (.unknownAddress index)
    else if maxTlvValueLength < value.length then .error (.tlvValueTooLong value.length)
    else if d.hasTlv position index && !allowDuplicate then .error (.duplicateTlv type.kind index)
    else match d.arena.put value with
      | .error e => .error e
      | .ok arena =>
        let entry : TlvEntry := ⟨position, index, d.arena.length, value.length⟩
        .ok { d with entries := d.entries ++ [entry], arena }

def setHeader (d : Draft) (f : MsgHeader → MsgHeader) : Draft := { d with header := f d.header }

def answer (d : Draft) : (call : Call) → call.Answer × Draft
  | .setFlags flags => ((), d.setHeader fun h => { h with flags })
  | .setHopLimit n => ((), d.setHeader fun h => { h with hopLimit := some n })
  | .setHopCount n => ((), d.setHeader fun h => { h with hopCount := some n })
  | .setOriginator addr => ((), d.setHeader fun h => { h with originator := some addr })
  | .setSeqNum n => ((), d.setHeader fun h => { h with seqNum := some n })
  | .addAddress addr mandatory =>
    match d.addAddress addr mandatory with
    | .ok (index, d') => (.ok index, d')
    | .error e => (.error e, d)
  | .addTlv index type value allowDuplicate =>
    match d.addTlv index type value allowDuplicate with
    | .ok d' => (.ok (), d')
    | .error e => (.error e, d)
  | .addressCount => (d.addresses.length, d)

/-! ## Encoding -/

/-- The value of an entry. -/
def valueOf (d : Draft) (e : TlvEntry) : List UInt8 :=
  (d.arena.bytes.drop e.start).take e.length

/-- The TLV of an entry, with the position of its type. -/
def resolve? (d : Draft) (e : TlvEntry) : Option (Nat × AddrTlv) :=
  d.declared[e.position]?.map fun type => (e.position, ⟨type, e.index, d.valueOf e⟩)

/-- The TLVs in the order of the calls, each with the position of its type. -/
def tlvs (d : Draft) : List (Nat × AddrTlv) := d.entries.filterMap d.resolve?

/-- The order of TLVs in a message: by position in the table, then by index of the address. -/
def tlvLe (s t : Nat × AddrTlv) : Bool :=
  s.1 < t.1 || (s.1 = t.1 && s.2.index ≤ t.2.index)

/-- The TLVs in the order in which they are written; calls of equal rank keep their order. -/
def sortedTlvs (d : Draft) : List AddrTlv := (d.tlvs.mergeSort tlvLe).map (·.2)

/-- The pieces before the address block: header and empty message TLV block. -/
def headPieces (d : Draft) (type : MsgType) : List Buffer.Piece :=
  d.header.pieces type d.width ++ [.ok (wordBytes 0)]

/-- The pieces of the address block: number of addresses, no flags, all addresses in full. -/
def addressPieces (d : Draft) : List Buffer.Piece :=
  [.ok [d.addresses.length.toUInt8], .ok [0]] ++ d.addresses.map fun a => .ok a.addr.bytes

/-- Fills in the word at an offset where one is written. -/
def fill (b : Buffer) (offset : Nat) (w : UInt16) : Buffer := (b.patchWord? offset w).getD b

/-- Writes the address block and its TLV block, whose length is filled in at the end. -/
def encodeAddresses (d : Draft) (b : Buffer) : Except WireError Buffer := do
  let b ← b.writeAll d.addressPieces
  let blockStart := b.length
  let b ← b.writeAll (.ok (wordBytes 0) :: d.sortedTlvs.map (·.piece))
  let blockLength ← lengthField (b.length - blockStart - 2)
  return fill b blockStart blockLength

/-- Writes the message into an empty buffer; its size is filled in at the end. -/
def encode (d : Draft) (type : MsgType) (b : Buffer) : Except WireError Buffer := do
  let b ← b.writeAll (d.headPieces type)
  let b ← if d.addresses.isEmpty then pure b else d.encodeAddresses b
  let size ← lengthField b.length
  return fill b 2 size

end Draft

end RouteDiscovery.Wire
