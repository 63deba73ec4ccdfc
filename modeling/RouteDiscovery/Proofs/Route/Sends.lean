/-
# Sends

What a send does to an idle sender (`RouteSender.Idle`): its writer knows the route messages and
nothing waits in its packet, and no number is kept for a reply.  A new sender is idle, and a send
leaves the sender idle whatever comes of it, so every sender that can be reached is idle
(`RouteSender.Reachable.idle`).  There are three outcomes:

* `RouteSender.send_invalid`: an address is unspecified, and nothing happens;
* `RouteSender.Idle.send_exceeded`: a buffer is too small; the transport is not called and the
  store keeps its number;
* `RouteSender.Idle.send_of_fits`: the transport gets the packet of the message.

`RouteSender.send_refines` puts them together, with the calls of the transport written down by the
transport itself (`Transport.logged`).
-/
import RouteDiscovery.Proofs.Route.Packets
import RouteDiscovery.Proofs.SeqNum.Cycle
import RouteDiscovery.Route.Sender

namespace RouteDiscovery

open Wire

/-! ## Building a message -/

namespace RouteMessage

/-- A buffer is too small for the message: the arena of the TLV values, the message buffer, or the
packet buffer, which also takes the packet header. -/
def TooLarge (config : WriterConfig) (m : RouteMessage) (data : RouteData) : Prop :=
  config.addrTlvSize < m.tlvArea ∨ config.msgSize < m.messageSize data ∨
    config.packetSize < m.messageSize data + 1

/-- The store after a message that was sent: a reply has taken its number. -/
def spent : RouteMessage → Store → Store
  | request, store => store
  | reply, store => store.advance

variable {config : WriterConfig} {data : RouteData} {store : Store}

lemma length_packet (m : RouteMessage) (data : RouteData) (number : SeqNum) :
    (m.packet data number).length = m.messageSize data + 1 := by
  rw [← m.frame_draft data number 0, List.length_cons, Draft.length_frame, frameSize_draft,
    messageSize_loaded]

lemma messageSize_le (m : RouteMessage) (data : RouteData) : m.messageSize data ≤ 61 := by
  have hcount : data.nodeCount ≤ 2 := by
    unfold RouteData.nodeCount
    split <;> decide
  cases m <;> simp only [messageSize] <;> omega

/-- The writer of an idle sender. -/
abbrev idleWriter (config : WriterConfig) : MessageWriter :=
  (RouteSender.preparedWriter config).state

lemma width?_idleWriter (m : RouteMessage) :
    (idleWriter config).width? m.type = some nodeAddressLength := by
  cases m <;> rfl

lemma table?_idleWriter (m : RouteMessage) : (idleWriter config).table? m.type = some m.table := by
  cases m <;> rfl

def emptyPacket (config : WriterConfig) : Buffer := { kind := .packet, capacity := config.packetSize }

def emptyMessage (config : WriterConfig) : Buffer := { kind := .message, capacity := config.msgSize }

/-- What putting a draft into the packet of an idle sender comes to. -/
lemma appendDraft_idleWriter (config : WriterConfig) (type : MsgType) (d : Draft) :
    (idleWriter config).appendDraft type d = d.encode type (emptyMessage config) >>= fun message =>
      MessageWriter.appendMessage (emptyPacket config) message.bytes >>= fun packet =>
        .ok (packet, message) := rfl

lemma encode_of_fits (m : RouteMessage) (data : RouteData) (number : SeqNum)
    (hmsg : m.messageSize data ≤ config.msgSize) :
    (m.draft (m.loaded data) number config.addrTlvSize).encode m.type (emptyMessage config) =
      .ok ((emptyMessage config).extend
        ((m.draft (m.loaded data) number config.addrTlvSize).frame m.type)) := by
  obtain ⟨hsound, hcomplete⟩ := m.complete_draft (m.loaded data) number config.addrTlvSize
  have hsize := m.frameSize_draft (m.loaded data) number config.addrTlvSize
  rw [messageSize_loaded] at hsize
  refine Draft.encode_of_fits hcomplete hsound.values_short rfl ?_ ?_
  · rw [hsize]
    exact hmsg
  · rw [hsize]
    exact Nat.le_trans (m.messageSize_le data) (by decide)

/-- The message fits: the packet holds it and nothing else. -/
lemma appendDraft_of_fits (m : RouteMessage) (data : RouteData) (number : SeqNum)
    (hmsg : m.messageSize data ≤ config.msgSize)
    (hpacket : m.messageSize data + 1 ≤ config.packetSize) :
    ∃ message, (idleWriter config).appendDraft m.type
        (m.draft (m.loaded data) number config.addrTlvSize) =
      .ok ((emptyPacket config).extend (m.packet data number), message) := by
  have hlength : ((m.draft (m.loaded data) number config.addrTlvSize).frame m.type).length =
      m.messageSize data := by
    rw [Draft.length_frame, frameSize_draft, messageSize_loaded]
  have happend : MessageWriter.appendMessage (emptyPacket config)
      ((emptyMessage config).extend
        ((m.draft (m.loaded data) number config.addrTlvSize).frame m.type)).bytes =
      .ok ((emptyPacket config).extend (m.packet data number)) := by
    rw [← m.frame_draft data number config.addrTlvSize]
    refine MessageWriter.appendMessage_of_fits ?_
    show List.length _ + 1 ≤ config.packetSize
    rwa [← hlength] at hpacket
  refine ⟨(emptyMessage config).extend
    ((m.draft (m.loaded data) number config.addrTlvSize).frame m.type), ?_⟩
  rw [appendDraft_idleWriter, encode_of_fits m data number hmsg, ok_bind, happend, ok_bind]

/-- The message does not fit its buffer or the packet. -/
lemma appendDraft_exceeded (m : RouteMessage) (data : RouteData) (number : SeqNum)
    (h : config.msgSize < m.messageSize data ∨ config.packetSize < m.messageSize data + 1) :
    ∃ kind, Exceeded kind ((idleWriter config).appendDraft m.type
      (m.draft (m.loaded data) number config.addrTlvSize)) := by
  have hsize := m.frameSize_draft (m.loaded data) number config.addrTlvSize
  rw [messageSize_loaded] at hsize
  rw [appendDraft_idleWriter]
  by_cases hmsg : m.messageSize data ≤ config.msgSize
  · have hpacket := h.resolve_left (Nat.not_lt.2 hmsg)
    -- the message is built, and there is no room for it behind the packet header
    rw [encode_of_fits m data number hmsg, ok_bind]
    refine ⟨.packet, (MessageWriter.appendMessage_exceeded ?_).bind _⟩
    show config.packetSize < List.length _ + 1
    rwa [← hsize, ← Draft.length_frame _ m.type] at hpacket
  · obtain ⟨hsound, hcomplete⟩ := m.complete_draft (m.loaded data) number config.addrTlvSize
    refine ⟨.message, (Draft.encode_exceeded hcomplete hsound.values_short rfl rfl ?_).bind _⟩
    rw [hsize]
    exact .inl (Nat.lt_of_not_le hmsg)

/-- A message that is in the packet has spent its number. -/
lemma finish_content (m : RouteMessage) (data : RouteData) (store : Store) :
    ((m.content data).finish (m.taken { store })).state = { store := m.spent store } := by
  cases m <;> rfl

/-- A message that could not be built gives its number back. -/
lemma abort_content (m : RouteMessage) (data : RouteData) (store : Store) :
    ((m.content data).abort (m.taken { store })).state = { store } := by
  cases m with
  | request => rfl
  | reply =>
    show Numbering.mk (store.reserve.state.release store.reserve.answer).state none = { store }
    rw [store.release_reserve.1]

/-- What building a message gives an idle sender. -/
abbrev created (config : WriterConfig) (m : RouteMessage) (data : RouteData) (store : Store) :
    MessageWriter.Created Numbering :=
  (idleWriter config).create (m.content (m.loaded data)) { store }

/-- All buffers are large enough: the packet holds the message, and a reply has spent its
number. -/
lemma create_of_fits (m : RouteMessage) (data : RouteData) (store : Store)
    (h : ¬ TooLarge config m data) :
    (created config m data store).result = .ok () ∧
      (created config m data store).writer = { idleWriter config with
        packet := (emptyPacket config).extend (m.packet data store.value) } ∧
      (created config m data store).context = { store := m.spent store } := by
  simp only [TooLarge, not_or, Nat.not_lt] at h
  obtain ⟨harena, hmsg, hpacket⟩ := h
  obtain ⟨callbacks, s, hcompose, hdraft, hcontext⟩ :=
    m.compose_of_fits (m.loaded data) { store } m.table?_idleWriter harena
  obtain ⟨message, happend⟩ := m.appendDraft_of_fits data store.value hmsg hpacket
  have hcreate : created config m data store = _ := MessageWriter.create_finished
    (by rw [type_content]; exact m.width?_idleWriter) hcompose
    (by rw [type_content, hdraft]; exact happend)
  rw [hcreate, ← finish_content m (m.loaded data) store, ← hcontext]
  exact ⟨rfl, rfl, rfl⟩

/-- A buffer is too small: the writer and the store are as before. -/
lemma create_exceeded (m : RouteMessage) (data : RouteData) (store : Store)
    (h : TooLarge config m data) :
    ∃ kind, Exceeded kind (created config m data store).result ∧
      (created config m data store).writer = idleWriter config ∧
      (created config m data store).context = { store } := by
  have hwidth : (idleWriter config).width? (m.content (m.loaded data)).type =
      some nodeAddressLength := by
    rw [type_content]
    exact m.width?_idleWriter
  -- a callback fails, or the message is too large; either way the provider gives its number back
  by_cases harena : config.addrTlvSize < m.tlvArea
  · obtain ⟨needed, available, callbacks, s, hlt, hcompose, hcontext⟩ :=
      m.compose_exceeded (m.loaded data) { store } m.table?_idleWriter harena
    have hcreate : created config m data store = _ := MessageWriter.create_rejected hwidth hcompose
    rw [hcreate, ← abort_content m (m.loaded data) store, ← hcontext]
    exact ⟨.addressTlv, ⟨needed, available, hlt, rfl⟩, rfl, rfl⟩
  · obtain ⟨callbacks, s, hcompose, hdraft, hcontext⟩ := m.compose_of_fits (m.loaded data)
      { store } m.table?_idleWriter (Nat.not_lt.1 harena)
    obtain ⟨kind, needed, available, hlt, happend⟩ :=
      m.appendDraft_exceeded data store.value (h.resolve_left harena)
    have hcreate : created config m data store = _ := MessageWriter.create_refused hwidth hcompose
      (by rw [type_content, hdraft]; exact happend)
    rw [hcreate, ← abort_content m (m.loaded data) store, ← hcontext]
    exact ⟨kind, ⟨needed, available, hlt, rfl⟩, rfl, rfl⟩

end RouteMessage

/-! ## Idle senders -/

namespace RouteSender

open RouteMessage

variable {τ : Type} {config : WriterConfig} {s : RouteSender τ}

structure Idle (config : WriterConfig) (s : RouteSender τ) : Prop where
  writer : s.writer = idleWriter config
  reserved : s.reserved = none

/-- The answer of a send whose packet was handed over. -/
def answerOf (length : ℕ) : Except TransportError Unit → Except SendError ℕ
  | .ok () => .ok length
  | .error e => .error (.transport e)

/-- An unspecified address is reported, and nothing happens. -/
lemma send_invalid {data : RouteData} {nextHop : Ipv6} {e : SendError}
    (hinvalid : validate data nextHop = .error e) (s : RouteSender τ) (t : Transport τ)
    (store : Store) (m : RouteMessage) :
    s.send t store m data nextHop = { answer := .error e, state := (s, store) } := by
  rw [send, hinvalid]

lemma emit_of_error {t : Transport τ} {store : Store} {m : RouteMessage}
    {made : MessageWriter.Created Numbering} {e : WireError}
    (hmade : s.writer.create (m.content s.delivery.data) { store, reserved := s.reserved } = made)
    (hresult : made.result = .error e) :
    (s.emit t store m).answer = .error (.encode e) ∧
      (s.emit t store m).state =
        ({ s with
            writer := made.writer.discard
            reserved := made.context.reserved
            counts := s.counts.encodeFailed }, made.context.store) := by
  subst hmade
  unfold emit conclude
  simp only [hresult, and_self]

lemma emit_of_ok {t : Transport τ} {store : Store} {m : RouteMessage}
    {made : MessageWriter.Created Numbering}
    (hmade : s.writer.create (m.content s.delivery.data) { store, reserved := s.reserved } = made)
    (hresult : made.result = .ok ()) (hfull : made.writer.packet.isEmpty = false) :
    (s.emit t store m).answer = answerOf made.writer.packet.length
        (t.send made.writer.packet.bytes s.delivery.nextHop s.transport).1 ∧
      ∃ counts, (s.emit t store m).state =
        ({ s with
            writer := made.writer.discard
            reserved := made.context.reserved
            transport := (t.send made.writer.packet.bytes s.delivery.nextHop s.transport).2
            counts }, made.context.store) := by
  subst hmade
  unfold emit conclude
  simp only [hresult, deliver, MessageWriter.flush, hfull, Bool.false_eq_true, if_false,
    Delivery.target]
  cases (t.send _ s.delivery.nextHop s.transport).1 with
  | error e => exact ⟨rfl, _, rfl⟩
  | ok done => exact ⟨rfl, _, rfl⟩

/-- A buffer is too small: this is reported, the transport is not called, and the store keeps its
number. -/
lemma Idle.send_exceeded (hs : s.Idle config) (t : Transport τ) (store : Store) (m : RouteMessage)
    {data : RouteData} {nextHop : Ipv6} (hvalid : validate data nextHop = .ok ())
    (h : TooLarge config m data) :
    (∃ kind needed available,
        (created config m data store).result = .error (.capacity kind needed available) ∧
        (s.send t store m data nextHop).answer =
          .error (.encode (.capacity kind needed available))) ∧
      (s.send t store m data nextHop).state.1.transport = s.transport ∧
      (s.send t store m data nextHop).state.2 = store ∧
      (s.send t store m data nextHop).state.1.Idle config := by
  obtain ⟨kind, ⟨needed, available, -, hresult⟩, hwriter, hcontext⟩ := m.create_exceeded data store h
  have hmade : s.writer.create (m.content (m.loaded data)) { store, reserved := s.reserved } =
      created config m data store := by rw [hs.writer, hs.reserved]
  obtain ⟨hanswer, hstate⟩ := emit_of_error (s := { s with delivery := deliveryOf m data nextHop })
    (t := t) hmade hresult
  rw [hwriter, hcontext] at hstate
  rw [send, hvalid]
  refine ⟨⟨kind, needed, available, hresult, hanswer⟩, ?_, ?_, ?_⟩
  · exact congrArg (·.1.transport) hstate
  · exact congrArg (·.2) hstate
  · show Idle config ({ s with delivery := deliveryOf m data nextHop }.emit t store m).state.1
    rw [hstate]
    exact ⟨rfl, rfl⟩

/-- All buffers are large enough: the transport gets the packet of the message, and a reply has
spent its number. -/
lemma Idle.send_of_fits (hs : s.Idle config) (t : Transport τ) (store : Store) (m : RouteMessage)
    {data : RouteData} {nextHop : Ipv6} (hvalid : validate data nextHop = .ok ())
    (h : ¬ TooLarge config m data) :
    (s.send t store m data nextHop).answer = answerOf (m.messageSize data + 1)
        (t.send (m.packet data store.value) nextHop s.transport).1 ∧
      (s.send t store m data nextHop).state.1.transport =
        (t.send (m.packet data store.value) nextHop s.transport).2 ∧
      (s.send t store m data nextHop).state.2 = m.spent store ∧
      (s.send t store m data nextHop).state.1.Idle config := by
  obtain ⟨hresult, hwriter, hcontext⟩ := m.create_of_fits data store h
  -- an idle sender builds the message as a new one does
  have hmade : s.writer.create (m.content (m.loaded data)) { store, reserved := s.reserved } =
      created config m data store := by rw [hs.writer, hs.reserved]
  have hlength := m.length_packet data store.value
  have hfull : (created config m data store).writer.packet.isEmpty = false := by
    rw [hwriter]
    exact List.isEmpty_eq_false_iff.2 (List.ne_nil_of_length_eq_add_one hlength)
  obtain ⟨hanswer, counts, hstate⟩ :=
    emit_of_ok (s := { s with delivery := deliveryOf m data nextHop }) (t := t) hmade hresult hfull
  rw [hwriter, hcontext] at hstate
  rw [hwriter] at hanswer
  rw [send, hvalid]
  refine ⟨hanswer.trans ?_, ?_, ?_, ?_⟩
  · show answerOf (m.packet data store.value).length _ = _
    rw [hlength]
    rfl
  · exact congrArg (·.1.transport) hstate
  · exact congrArg (·.2) hstate
  · show Idle config ({ s with delivery := deliveryOf m data nextHop }.emit t store m).state.1
    rw [hstate]
    exact ⟨rfl, rfl⟩

/-! ## Senders that can be reached -/

/-- The senders that a new sender with these capacities can become: by sends, of whatever outcome,
over whatever transport, with whatever number in the shared store, and by changes of the transport
from outside. -/
inductive Reachable (config : WriterConfig) : RouteSender τ → Prop
  | new (transport : τ) : Reachable config (RouteSender.new config transport).state
  | send {s : RouteSender τ} (h : Reachable config s) (t : Transport τ) (store : Store)
      (m : RouteMessage) (data : RouteData) (nextHop : Ipv6) :
      Reachable config (s.send t store m data nextHop).state.1
  | change {s : RouteSender τ} (h : Reachable config s) (transport : τ) :
      Reachable config { s with transport }

/-- A send leaves an idle sender idle. -/
lemma Idle.send (hs : s.Idle config) (t : Transport τ) (store : Store) (m : RouteMessage)
    (data : RouteData) (nextHop : Ipv6) :
    (s.send t store m data nextHop).state.1.Idle config := by
  cases hvalid : validate data nextHop with
  | error e =>
    rw [send_invalid hvalid]
    exact hs
  | ok done =>
    by_cases h : TooLarge config m data
    · exact (hs.send_exceeded t store m hvalid h).2.2.2
    · exact (hs.send_of_fits t store m hvalid h).2.2.2

/-- Every sender that can be reached is idle. -/
lemma Reachable.idle (hs : s.Reachable config) : s.Idle config := by
  induction hs with
  | new transport => exact ⟨rfl, rfl⟩
  | send _ t store m data nextHop ih => exact ih.send t store m data nextHop
  | change _ transport ih => exact ⟨ih.writer, ih.reserved⟩

end RouteSender

/-! ## What the transport sees -/

/-- A packet with the node that gets it. -/
abbrev HandedOver := List UInt8 × Ipv6

/-- The transport that also writes down its calls. -/
def Transport.logged {τ : Type} (t : Transport τ) : Transport (τ × List HandedOver) where
  send packet nextHop s :=
    ((t.send packet nextHop s.1).1, (t.send packet nextHop s.1).2, s.2 ++ [(packet, nextHop)])

namespace RouteSender

open RouteMessage

variable {τ : Type} {config : WriterConfig} {s : RouteSender τ}

/-- The sender over a transport that writes down its calls. -/
def logging (s : RouteSender τ) : RouteSender (τ × List HandedOver) where
  writer := s.writer
  delivery := s.delivery
  reserved := s.reserved
  counts := s.counts
  transport := (s.transport, [])

/-- The calls of the transport in a send. -/
def handed (s : RouteSender τ) (t : Transport τ) (store : Store) (m : RouteMessage)
    (data : RouteData) (nextHop : Ipv6) : List HandedOver :=
  (s.logging.send t.logged store m data nextHop).state.1.transport.2

lemma Idle.logging (hs : s.Idle config) : s.logging.Idle config := ⟨hs.writer, hs.reserved⟩

/-- A send calls the transport once, with the packet of the message, or not at all. -/
lemma Idle.handed_eq (hs : s.Idle config) (t : Transport τ) (store : Store) (m : RouteMessage)
    {data : RouteData} {nextHop : Ipv6} (hvalid : validate data nextHop = .ok ()) :
    (TooLarge config m data → s.handed t store m data nextHop = []) ∧
      (¬ TooLarge config m data →
        s.handed t store m data nextHop = [(m.packet data store.value, nextHop)]) := by
  constructor
  · intro h
    exact congrArg Prod.snd (hs.logging.send_exceeded t.logged store m hvalid h).2.1
  · intro h
    exact congrArg Prod.snd (hs.logging.send_of_fits t.logged store m hvalid h).2.1

/-- Writing down the calls changes nothing else. -/
lemma Idle.send_logging (hs : s.Idle config) (t : Transport τ) (store : Store) (m : RouteMessage)
    (data : RouteData) (nextHop : Ipv6) :
    (s.logging.send t.logged store m data nextHop).answer =
        (s.send t store m data nextHop).answer ∧
      (s.logging.send t.logged store m data nextHop).state.1.transport.1 =
        (s.send t store m data nextHop).state.1.transport ∧
      (s.logging.send t.logged store m data nextHop).state.2 =
        (s.send t store m data nextHop).state.2 := by
  cases hvalid : validate data nextHop with
  | error e =>
    rw [send_invalid hvalid, send_invalid hvalid]
    exact ⟨rfl, rfl, rfl⟩
  | ok done =>
    by_cases h : TooLarge config m data
    · obtain ⟨⟨_, _, _, hresult, hanswer⟩, htransport, hstore, -⟩ :=
        hs.send_exceeded t store m hvalid h
      obtain ⟨⟨_, _, _, hresult', hanswer'⟩, htransport', hstore', -⟩ :=
        hs.logging.send_exceeded t.logged store m hvalid h
      rw [hresult] at hresult'
      rw [hanswer, hanswer', htransport, htransport', hstore, hstore', Except.error.inj hresult']
      exact ⟨rfl, rfl, rfl⟩
    · obtain ⟨hanswer, htransport, hstore, -⟩ := hs.send_of_fits t store m hvalid h
      obtain ⟨hanswer', htransport', hstore', -⟩ :=
        hs.logging.send_of_fits t.logged store m hvalid h
      rw [hanswer, hanswer', htransport, htransport', hstore, hstore']
      exact ⟨rfl, rfl, rfl⟩

/-! ## The reference -/

/-- **A send refines the packet of its message.**  For every sender that can be reached, every
transport, every store and every send whose addresses are specified: the message cannot be built
exactly if one of the buffers is too small for it, the reason is always that a buffer is exhausted,
and then the transport is not called.  Otherwise the transport is called exactly once, with the
node that is to get the packet and the bytes of the packet, and what it says is the answer: the
length of the packet or the reason why it was not taken. -/
theorem send_refines {config : WriterConfig} {s : RouteSender τ} (hs : s.Reachable config)
    (t : Transport τ) (store : Store) (m : RouteMessage) (data : RouteData) (nextHop : Ipv6)
    (hvalid : validate data nextHop = .ok ()) :
    ((∃ cause, (s.send t store m data nextHop).answer = .error (.encode cause)) ↔
      config.addrTlvSize < m.tlvArea ∨ config.msgSize < m.messageSize data ∨
        config.packetSize < m.messageSize data + 1) ∧
    (∀ cause, (s.send t store m data nextHop).answer = .error (.encode cause) →
      (∃ kind needed available, cause = .capacity kind needed available) ∧
        s.handed t store m data nextHop = []) ∧
    ((∀ cause, (s.send t store m data nextHop).answer ≠ .error (.encode cause)) →
      s.handed t store m data nextHop = [(m.packet data store.value, nextHop)] ∧
        (s.send t store m data nextHop).answer = answerOf (m.messageSize data + 1)
          (t.send (m.packet data store.value) nextHop s.transport).1) := by
  have hidle := hs.idle
  obtain ⟨hnone, honce⟩ := hidle.handed_eq t store m hvalid
  by_cases h : TooLarge config m data
  · obtain ⟨⟨kind, needed, available, -, hanswer⟩, -, -, -⟩ := hidle.send_exceeded t store m hvalid h
    refine ⟨⟨fun _ => h, fun _ => ⟨_, hanswer⟩⟩, fun cause hcause => ⟨?_, hnone h⟩,
      fun hne => absurd hanswer (hne _)⟩
    rw [hanswer] at hcause
    exact ⟨kind, needed, available, (SendError.encode.inj (Except.error.inj hcause)).symm⟩
  · obtain ⟨hanswer, -, -, -⟩ := hidle.send_of_fits t store m hvalid h
    have hne : ∀ cause, (s.send t store m data nextHop).answer ≠ .error (.encode cause) := by
      intro cause
      rw [hanswer]
      cases (t.send (m.packet data store.value) nextHop s.transport).1 <;> simp [answerOf]
    exact ⟨⟨fun ⟨cause, hcause⟩ => absurd hcause (hne cause), fun hlarge => absurd hlarge h⟩,
      fun cause hcause => absurd hcause (hne cause), fun _ => ⟨honce h, hanswer⟩⟩

/-- A transport that takes every packet. -/
def acceptAll : Transport Unit := ⟨fun _ _ _ => (.ok (), ())⟩

/-- A transport that takes no packet. -/
def refuseAll : Transport Unit := ⟨fun _ _ _ => (.error .queueFull, ())⟩

/-- A node that looks for another. -/
def sampleData : RouteData where
  originator := ⟨.ofWords 0x2001 0xdb8 0 0 0 0 0 1, 258, 7⟩
  target := ⟨.ofWords 0x2001 0xdb8 0 0 0 0 0 2, 9, 4⟩
  hopLimit := 20

/-- A sender whose first packet was not taken. -/
def sampleSender : RouteSender Unit :=
  ((RouteSender.new {} ()).state.send refuseAll ⟨1⟩ .reply sampleData .localhost).state.1

theorem send_refines_sample :
    sampleSender.handed acceptAll ⟨65535⟩ .reply sampleData .localhost =
        [([0, 11, 0x4F, 0, 61, 250, 0, 0, 2, 0,
          0x20, 0x01, 0x0d, 0xb8, 0, 0, 0, 0, 0, 0, 0, 0, 0, 0, 0, 1,
          0x20, 0x01, 0x0d, 0xb8, 0, 0, 0, 0, 0, 0, 0, 0, 0, 0, 0, 2,
          0, 18, 0, 0x50, 0, 2, 1, 2, 1, 0x50, 1, 2, 0xFF, 0xFF, 3, 0xD0, 3, 1, 1, 4],
          .localhost)] ∧
      (sampleSender.send acceptAll ⟨65535⟩ .reply sampleData .localhost).answer = .ok 62 := by
  have hreachable : sampleSender.Reachable {} :=
    (Reachable.new ()).send refuseAll ⟨1⟩ .reply sampleData .localhost
  obtain ⟨hlarge, -, hsent⟩ :=
    send_refines hreachable acceptAll ⟨65535⟩ .reply sampleData .localhost rfl
  obtain ⟨hhanded, hanswer⟩ :=
    hsent fun cause hcause => absurd (hlarge.1 ⟨cause, hcause⟩) (by decide)
  exact ⟨hhanded.trans (by decide), hanswer⟩

end RouteSender

end RouteDiscovery
