/-
# Route sender

The sender of a node makes route messages and hands them to its transport.  It owns a message
writer, the delivery at hand, its counters and its transport; the node's sequence number may be
shared with other senders and is passed to each send.

A send (`RouteSender.send`)

* rejects unspecified addresses before anything else happens;
* loads the delivery and lets the message writer build the message; if that fails, the packet is
  emptied and the failure counted;
* hands the packet to the transport and counts what the transport said.
-/
import RouteDiscovery.Route.Content
import RouteDiscovery.Route.Transport

namespace RouteDiscovery

open Log Wire

/-- The arguments that a send checks. -/
inductive AddressRole where
  | nextHop
  | originator
  | target
deriving DecidableEq, Repr, Inhabited

/-- How errors name an argument. -/
def AddressRole.name : AddressRole → String
  | nextHop => "next hop"
  | originator => "originator"
  | target => "target"

/-- Why a send failed. -/
inductive SendError where
  | unspecified (role : AddressRole)
  | encode (cause : WireError)
  | transport (cause : TransportError)
deriving DecidableEq, Repr, Inhabited

/-- The wording of an error. -/
def SendError.message : SendError → String
  | unspecified role => "invalid argument: " ++ role.name ++ " address is unspecified"
  | encode cause => "encoding failed: " ++ cause.message
  | transport cause => "transport failed: " ++ cause.message

/-- The counters of a sender; they start again after the largest number of 64 bits. -/
structure SendCounts where
  /-- Requests taken by the transport. -/
  requests : UInt64 := 0
  /-- Replies taken by the transport. -/
  replies : UInt64 := 0
  /-- Bytes taken by the transport. -/
  bytes : UInt64 := 0
  encodeFailures : UInt64 := 0
  transportFailures : UInt64 := 0
deriving DecidableEq, Repr, Inhabited

namespace SendCounts

/-- Counts a packet that was taken. -/
def sent (c : SendCounts) (m : RouteMessage) (length : Nat) : SendCounts :=
  match m with
  | .request => { c with requests := c.requests + 1, bytes := c.bytes + length.toUInt64 }
  | .reply => { c with replies := c.replies + 1, bytes := c.bytes + length.toUInt64 }

def encodeFailed (c : SendCounts) : SendCounts := { c with encodeFailures := c.encodeFailures + 1 }

def transportFailed (c : SendCounts) : SendCounts :=
  { c with transportFailures := c.transportFailures + 1 }

end SendCounts

/-- The sender of a node; `τ` is the state of its transport. -/
structure RouteSender (τ : Type) where
  writer : MessageWriter
  /-- The delivery at hand. -/
  delivery : Delivery := {}
  /-- The number taken for the reply at hand. -/
  reserved : Option SeqNum := none
  counts : SendCounts := {}
  transport : τ

namespace RouteSender

variable {τ : Type}

/-- Registers route messages, one after another. -/
def registerAll :
    List RouteMessage → MessageWriter → Outcome MessageWriter (Except WireError Unit)
  | [], w => { answer := .ok (), state := w }
  | m :: ms, w =>
    let table := w.registerProvider m.type m.table
    match table.answer with
    | .error e => { table with answer := .error e }
    | .ok () =>
      let width := table.state.registerMessage m.type nodeAddressLength
      match width.answer with
      | .error e => { width with answer := .error e, events := table.events ++ width.events }
      | .ok () =>
        let rest := registerAll ms width.state
        { rest with events := table.events ++ width.events ++ rest.events }

/-- A message writer that knows the route messages. -/
def preparedWriter (config : WriterConfig) : Outcome MessageWriter (Except WireError Unit) :=
  registerAll RouteMessage.all (.new config)

/-- The registrations of a new writer do not fail. -/
theorem preparedWriter_answer (config : WriterConfig) :
    (preparedWriter config).answer = .ok () := rfl

def openedEvent (config : WriterConfig) : Event :=
  { level := .info, message := "AODVv2 packet writer initialized",
    fields := [("msg_size", .nat config.msgSize), ("addr_tlv_size", .nat config.addrTlvSize),
               ("packet_size", .nat config.packetSize)] }

/-- A new sender. -/
def new (config : WriterConfig) (transport : τ) : Outcome (RouteSender τ) Unit :=
  let prepared := preparedWriter config
  { answer := (), state := { writer := prepared.state, transport }
    events := prepared.events ++ [openedEvent config] }

/-! ## Sending -/

/-- Checks the addresses of a send; the first unspecified one is reported. -/
def validate (data : RouteData) (nextHop : Ipv6) : Except SendError Unit :=
  if nextHop.isUnspecified then .error (.unspecified .nextHop)
  else if data.originator.addr.isUnspecified then .error (.unspecified .originator)
  else if data.target.addr.isUnspecified then .error (.unspecified .target)
  else .ok ()

/-- What the events call a send of a message. -/
def sendText : RouteMessage → String
  | .request => "send rreq"
  | .reply => "send rrep"

/-- The event of a send whose addresses are in order. -/
def sendEvent (m : RouteMessage) (data : RouteData) (nextHop : Ipv6) : Event :=
  { level := .debug, message := sendText m,
    fields := [("orig", .shown data.originator.addr.text), ("targ", .shown data.target.addr.text),
               ("next_hop", .shown nextHop.text)] }

def encodeFailedEvent (m : RouteMessage) (e : WireError) : Event :=
  { level := .warn, message := "failed to encode message",
    fields := [("msg_type", .nat m.type.code.toNat), ("error", .shown e.message)] }

def sentEvent (m : RouteMessage) (length : Nat) (nextHop : Ipv6) : Event :=
  { level := .debug, message := "packet sent",
    fields := [("msg_type", .nat m.type.code.toNat), ("len", .nat length),
               ("next_hop", .shown nextHop.text)] }

/-- The delivery of a message, with the hop limit that the message gets. -/
def deliveryOf (m : RouteMessage) (data : RouteData) (nextHop : Ipv6) : Delivery :=
  .load m.type { data with hopLimit := m.hopLimit data } nextHop

/-- What a send gives: the sender and the node's store afterwards. -/
abbrev Sent (τ : Type) := Outcome (RouteSender τ × Store) (Except SendError Nat)

/-- Hands the packet over to the transport. -/
def deliver (s : RouteSender τ) (t : Transport τ) (store : Store) (m : RouteMessage) : Sent τ :=
  let flushed := s.writer.flush (s.delivery.target t) s.transport
  let s := { s with writer := flushed.state.1, transport := flushed.state.2 }
  match flushed.answer with
  | .error e =>
    { answer := .error (.transport e)
      state := ({ s with counts := s.counts.transportFailed }, store)
      events := flushed.events }
  | .ok length =>
    { answer := .ok length
      state := ({ s with counts := s.counts.sent m length }, store)
      events := flushed.events ++ [sentEvent m length s.delivery.nextHop] }

/-- Goes on with what making the message gave: the packet is handed over, or emptied if the message
could not be built. -/
def conclude (s : RouteSender τ) (t : Transport τ) (m : RouteMessage)
    (made : MessageWriter.Created Numbering) : Sent τ :=
  let s := { s with writer := made.writer, reserved := made.context.reserved }
  match made.result with
  | .error e =>
    { answer := .error (.encode e)
      state := ({ s with writer := s.writer.discard, counts := s.counts.encodeFailed },
                made.context.store)
      events := made.events ++ [encodeFailedEvent m e] }
  | .ok () =>
    let delivered := s.deliver t made.context.store m
    { delivered with events := made.events ++ delivered.events }

/-- Builds the message of the loaded delivery and hands its packet over. -/
def emit (s : RouteSender τ) (t : Transport τ) (store : Store) (m : RouteMessage) : Sent τ :=
  s.conclude t m (s.writer.create (m.content s.delivery.data) { store, reserved := s.reserved })

/-- Sends a message to a node. -/
def send (s : RouteSender τ) (t : Transport τ) (store : Store) (m : RouteMessage)
    (data : RouteData) (nextHop : Ipv6) : Sent τ :=
  match validate data nextHop with
  | .error e => { answer := .error e, state := (s, store) }
  | .ok () =>
    let sent := { s with delivery := deliveryOf m data nextHop }.emit t store m
    { sent with events := sendEvent m data nextHop :: sent.events }

end RouteSender

end RouteDiscovery
