/-
# Message writer

The writer knows the message types with their address widths and TLV tables, and holds the
packet that is being filled.

* `registerMessage` and `registerProvider` fill the registry; the first registration counts.
* `create` lets a content provider build one message and appends it to the packet.  On failure
  nothing is appended.  A draft and a message buffer live only while one message is built.
* `flush` hands the packet to a target and empties it, whatever the target answers.
-/
import RouteDiscovery.Wire.Script

namespace RouteDiscovery.Wire

open Log

/-- The capacities of a message writer. -/
structure WriterConfig where
  msgSize : Nat := 128
  /-- Size of the arena for TLV values. -/
  addrTlvSize : Nat := 1000
  packetSize : Nat := 128
deriving DecidableEq, Repr, Inhabited

/-- What is known of a message type. -/
structure Registration where
  type : MsgType
  /-- The width of its addresses, if it is registered. -/
  width : Option Nat := none
  /-- The TLVs of its content provider, if it is registered. -/
  table : Option (List TlvType) := none
deriving DecidableEq, Repr

/-- A message writer. -/
structure MessageWriter where
  config : WriterConfig
  registry : List Registration := []
  /-- The packet that is being filled. -/
  packet : Buffer
deriving DecidableEq, Repr

namespace MessageWriter

/-- A writer that knows no message type. -/
def new (config : WriterConfig) : MessageWriter :=
  { config, packet := { kind := .packet, capacity := config.packetSize } }

/-! ## Registration -/

/-- What is known of a message type. -/
def find? (w : MessageWriter) (type : MsgType) : Option Registration :=
  w.registry.find? fun r => r.type = type

/-- Changes what is known of a message type. -/
def update (w : MessageWriter) (type : MsgType) (f : Registration → Registration) :
    MessageWriter :=
  { w with
    registry :=
      if (w.find? type).isSome then w.registry.map fun r => if r.type = type then f r else r
      else w.registry ++ [f { type }] }

def width? (w : MessageWriter) (type : MsgType) : Option Nat :=
  (w.find? type).bind (·.width)

def table? (w : MessageWriter) (type : MsgType) : Option (List TlvType) :=
  (w.find? type).bind (·.table)

/-- Registers a message type with the width of its addresses. -/
def registerMessage (w : MessageWriter) (type : MsgType) (width : Nat) :
    Outcome MessageWriter (Except WireError Unit) :=
  if width = 0 ∨ maxAddressLength < width then
    { answer := .error (.addressLength maxAddressLength width), state := w }
  else if (w.width? type).isSome then
    { answer := .error (.alreadyRegistered type.code), state := w }
  else
    { answer := .ok ()
      state := w.update type fun r => { r with width := some width }
      events := [{ level := .debug, message := "registered message type",
                   fields := [("msg_type", .nat type.code.toNat), ("addr_len", .nat width)] }] }

/-- Declares the TLVs that a message type may carry. -/
def registerProvider (w : MessageWriter) (type : MsgType) (table : List TlvType) :
    Outcome MessageWriter (Except WireError Unit) :=
  if (w.table? type).isSome then
    { answer := .error (.alreadyRegistered type.code), state := w }
  else
    { answer := .ok ()
      state := w.update type fun r => { r with table := some table }
      events := [{ level := .debug, message := "registered content provider",
                   fields := [("msg_type", .nat type.code.toNat), ("tlvs", .nat table.length)] }] }

/-! ## Messages -/

/-- A callback of a content provider. -/
inductive Callback where
  | header
  | addresses
  | finish
  | abort
deriving DecidableEq, Repr

/-- What building a message gives. -/
structure Created (σ : Type) where
  /-- Whether the message is in the packet. -/
  result : Except WireError Unit
  writer : MessageWriter
  context : σ
  /-- The callbacks in order. -/
  callbacks : List Callback := []
  calls : List CallRecord := []
  events : List Event := []

/-- The event of a message that was appended to the packet. -/
def createdEvent (type : MsgType) (d : Draft) (size : Nat) : Event :=
  { level := .debug, message := "message created",
    fields := [("msg_type", .nat type.code.toNat), ("addresses", .nat d.addresses.length),
               ("mandatory", .nat (d.addresses.countP (·.mandatory))),
               ("tlvs", .nat d.entries.length), ("size", .nat size)] }

def failedEvent (type : MsgType) (e : WireError) : Event :=
  { level := .debug, message := "message build failed",
    fields := [("msg_type", .nat type.code.toNat), ("error", .shown e.message)] }

/-- Appends a message to a packet, after the packet header if it is the first. -/
def appendMessage (packet : Buffer) (message : List UInt8) : Except WireError Buffer := do
  packet.ensure (message.length + if packet.isEmpty then 1 else 0)
  let packet ← if packet.isEmpty then packet.putByte packetHeader else pure packet
  packet.put message

/-- Encodes a draft and appends it to the packet; gives the packet and the message. -/
def appendDraft (w : MessageWriter) (type : MsgType) (d : Draft) :
    Except WireError (Buffer × Buffer) := do
  let message ← d.encode type { kind := .message, capacity := w.config.msgSize }
  let packet ← appendMessage w.packet message.bytes
  return (packet, message)

/-- Carries out the callbacks that build the message. -/
def compose {σ : Type} (p : ContentProvider σ) (s : Session σ) :
    Except WireError Unit × List Callback × Session σ :=
  match p.addHeader.run.run s with
  | (.error e, s) => (.error e, [.header], s)
  | (.ok (), s) =>
    let (r, s) := p.addAddresses.run.run s
    (r, [.header, .addresses], s)

/-- Ends a message that is in the packet. -/
def finished {σ : Type} (w : MessageWriter) (p : ContentProvider σ) (callbacks : List Callback)
    (s : Session σ) (packet message : Buffer) : Created σ :=
  let last := p.finish s.context
  { result := .ok (), writer := { w with packet }, context := last.state,
    callbacks := callbacks ++ [.finish], calls := s.calls,
    events := s.events.reverse ++ createdEvent p.type s.draft message.length :: last.events }

/-- Ends a message that could not be built. -/
def aborted {σ : Type} (w : MessageWriter) (p : ContentProvider σ) (callbacks : List Callback)
    (s : Session σ) (e : WireError) : Created σ :=
  let last := p.abort s.context
  { result := .error e, writer := w, context := last.state,
    callbacks := callbacks ++ [.abort], calls := s.calls,
    events := s.events.reverse ++ failedEvent p.type e :: last.events }

/-- Lets a provider build one message and appends it to the packet. -/
def create {σ : Type} (w : MessageWriter) (p : ContentProvider σ) (context : σ) : Created σ :=
  match w.width? p.type with
  | none => { result := .error (.unregistered p.type.code), writer := w, context }
  | some width =>
    let draft := Draft.start width ((w.table? p.type).getD []) w.config.addrTlvSize
    match compose p { draft, context } with
    | (.error e, callbacks, s) => w.aborted p callbacks s e
    | (.ok (), callbacks, s) =>
      match w.appendDraft p.type s.draft with
      | .error e => w.aborted p callbacks s e
      | .ok (packet, message) => w.finished p callbacks s packet message

/-! ## Packets -/

/-- The number of bytes that wait in the packet. -/
def pending (w : MessageWriter) : Nat := w.packet.length

/-- The writer with an empty packet. -/
def discard (w : MessageWriter) : MessageWriter := { w with packet := w.packet.clear }

/-- Where packets go: `τ` is its state and `ε` its errors. -/
abbrev PacketTarget (ε τ : Type) := List UInt8 → τ → Outcome τ (Except ε Unit)

/-- The event of a packet that was handed over. -/
def flushedEvent (length : Nat) (ok : Bool) : Event :=
  { level := .trace, message := "packet flushed",
    fields := [("len", .nat length), ("ok", .bool ok)] }

/-- Hands the packet to a target and empties it.  An empty packet is not handed over. -/
def flush {ε τ : Type} (w : MessageWriter) (target : PacketTarget ε τ) (t : τ) :
    Outcome (MessageWriter × τ) (Except ε Nat) :=
  if w.packet.isEmpty then { answer := .ok 0, state := (w, t) }
  else
    let sent := target w.packet.bytes t
    { answer := sent.answer.map fun _ => w.pending
      state := (w.discard, sent.state)
      events := sent.events ++ [flushedEvent w.pending sent.answer.toBool] }

end MessageWriter

end RouteDiscovery.Wire
