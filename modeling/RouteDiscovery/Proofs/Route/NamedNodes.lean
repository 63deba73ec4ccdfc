/-
# The nodes that a message names

A route message is to name two nodes, the originator at index 0 and the target at index 1, and to
put each TLV on its node (`RouteMessage.places`).  A reader of the packet finds this exactly if the
addresses of the two nodes differ (`RouteSender.names_two_nodes_iff`): an address that is added
twice stands in the address block once, and a node that looks for itself is not refused.  Its
message names one node, which carries all TLVs.
-/
import RouteDiscovery.Proofs.Route.ReplyNumbers

namespace RouteDiscovery

open Wire

namespace RouteMessage

/-- The TLVs of a message that names two nodes, each with the index of its node. -/
def places : RouteMessage → List (TlvType × ℕ)
  | request => [(.originatorSeqNum, 0), (.metric, 0)]
  | reply => [(.originatorSeqNum, 0), (.targetSeqNum, 1), (.metric, 1)]

/-- A message names the originator and the target, in this order, and its TLVs are on the nodes that
they speak of. -/
structure NamesTwoNodes (m : RouteMessage) (data : RouteData) (found : Message) : Prop where
  addresses : found.addresses = [data.originator.addr.octets, data.target.addr.octets]
  places : found.tlvs.map (fun t => (t.type, t.index)) = m.places

/-- What a reader finds in the packet of a message. -/
abbrev written (m : RouteMessage) (data : RouteData) (number : SeqNum) : Message :=
  (m.draft (m.loaded data) number 0).message m.type

variable {data : RouteData}

lemma addresses_written (m : RouteMessage) (data : RouteData) (number : SeqNum) :
    (m.written data number).addresses = (nodes data).map (·.bytes) := by
  obtain ⟨-, -, -, haddresses⟩ := Draft.withTlvs_frame
    (m.namedDraft (m.loaded data) 0 (nodes (m.loaded data))) (m.tlvs (m.loaded data) number)
  show (m.draft (m.loaded data) number 0).addresses.map (·.addr.bytes) = _
  rw [draft, haddresses, namedDraft, List.map_map]
  rfl

lemma tlvs_written (m : RouteMessage) (data : RouteData) (number : SeqNum) :
    (m.written data number).tlvs = m.tlvs (m.loaded data) number :=
  m.sortedTlvs_draft (m.loaded data) number 0

/-- The address block counts the nodes that are named. -/
lemma count_packet (m : RouteMessage) (data : RouteData) (number : SeqNum) :
    (m.packet data number)[8]? = some data.nodeCount.toUInt8 := by
  cases m <;> rfl

lemma length_addresses_written (m : RouteMessage) (data : RouteData) (number : SeqNum) :
    (m.written data number).addresses.length = data.nodeCount := by
  rw [addresses_written, List.length_map, length_nodes]

/-- Nodes with different addresses are both named. -/
lemma namesTwoNodes_of_ne (m : RouteMessage) (number : SeqNum)
    (hne : data.originator.addr ≠ data.target.addr) :
    m.NamesTwoNodes data (m.written data number) := by
  have hindex : (m.loaded data).targetIndex = 1 := by
    show data.nodeCount - 1 = 1
    rw [RouteData.nodeCount, if_neg hne]
  refine ⟨?_, ?_⟩
  · rw [addresses_written, nodes, if_neg hne]
    rfl
  · rw [tlvs_written]
    cases m <;> simp [tlvs, RouteMessage.places, hindex]

/-- A node that looks for itself is named once, and carries all TLVs. -/
lemma written_of_eq (m : RouteMessage) (number : SeqNum)
    (heq : data.originator.addr = data.target.addr) :
    (m.written data number).addresses = [data.originator.addr.octets] ∧
      ∀ t ∈ (m.written data number).tlvs, t.index = 0 := by
  have hindex : (m.loaded data).targetIndex = 0 := by
    show data.nodeCount - 1 = 0
    rw [RouteData.nodeCount, if_pos heq]
  refine ⟨?_, ?_⟩
  · rw [addresses_written, nodes, if_pos heq]
    rfl
  · rw [tlvs_written]
    cases m <;> simp [tlvs, hindex]

lemma namesTwoNodes_iff (m : RouteMessage) (data : RouteData) (number : SeqNum) :
    m.NamesTwoNodes data (m.written data number) ↔ data.originator.addr ≠ data.target.addr := by
  refine ⟨fun hnames heq => ?_, m.namesTwoNodes_of_ne number⟩
  have hone := hnames.addresses
  rw [(m.written_of_eq number heq).1] at hone
  exact absurd (congrArg List.length hone) (by simp)

end RouteMessage

namespace RouteSender

variable {τ : Type} {config : WriterConfig} {s : RouteSender τ}

/-- A message that fits can be built. -/
lemma Idle.ne_encode_of_fits (hs : s.Idle config) (t : Transport τ) (store : Store)
    (m : RouteMessage) {data : RouteData} {nextHop : Ipv6}
    (hvalid : validate data nextHop = .ok ()) (hfits : ¬ m.TooLarge config data)
    (cause : WireError) :
    (s.send t store m data nextHop).answer ≠ .error (.encode cause) := by
  rw [(hs.send_of_fits t store m hvalid hfits).1]
  cases (t.send (m.packet data store.value) nextHop s.transport).1 <;> simp [answerOf]

/-- A message that was built is handed over once, and a reader finds it in the packet. -/
lemma Idle.handed_of_built (hs : s.Idle config) (t : Transport τ) (store : Store) (m : RouteMessage)
    {data : RouteData} {nextHop : Ipv6} (hvalid : validate data nextHop = .ok ())
    (hbuilt : ∀ cause, (s.send t store m data nextHop).answer ≠ .error (.encode cause)) :
    s.handed t store m data nextHop = [(m.packet data store.value, nextHop)] ∧
      readPacket (m.packet data store.value) = some [m.written data store.value] := by
  refine ⟨(hs.handed_eq t store m hvalid).2 fun hlarge => ?_, m.readPacket_packet data store.value⟩
  obtain ⟨⟨_, _, _, -, hanswer⟩, -⟩ := hs.send_exceeded t store m hvalid hlarge
  exact hbuilt _ hanswer

/-- **A message names two nodes exactly if they are two.**  For every sender that can be reached,
every transport and every store: a message whose addresses are specified and which can be built is
handed over in one packet with one message.  The message names the originator at index 0 and the
target at index 1, and has each TLV on the node that it speaks of, exactly if the addresses of the
two differ.  Otherwise it names the one address, and all TLVs are on it. -/
theorem names_two_nodes_iff (hs : s.Reachable config) (t : Transport τ) (store : Store)
    (m : RouteMessage) (data : RouteData) (nextHop : Ipv6)
    (hvalid : validate data nextHop = .ok ())
    (hbuilt : ∀ cause, (s.send t store m data nextHop).answer ≠ .error (.encode cause)) :
    ∃ packet found, s.handed t store m data nextHop = [(packet, nextHop)] ∧
      readPacket packet = some [found] ∧
      packet[8]? = some found.addresses.length.toUInt8 ∧
      (m.NamesTwoNodes data found ↔ data.originator.addr ≠ data.target.addr) ∧
      (data.originator.addr = data.target.addr →
        found.addresses = [data.originator.addr.octets] ∧ ∀ u ∈ found.tlvs, u.index = 0) := by
  obtain ⟨hhanded, hread⟩ := hs.idle.handed_of_built t store m hvalid hbuilt
  refine ⟨_, _, hhanded, hread, ?_, m.namesTwoNodes_iff data store.value,
    m.written_of_eq store.value⟩
  rw [m.length_addresses_written]
  exact m.count_packet data store.value

/-- A reply after a packet that was not taken names both nodes. -/
theorem reply_names_two_nodes :
    ∃ packet found, sampleSender.handed acceptAll ⟨65535⟩ .reply sampleData .localhost =
        [(packet, .localhost)] ∧ readPacket packet = some [found] ∧ packet[8]? = some 2 ∧
      RouteMessage.reply.NamesTwoNodes sampleData found := by
  have hreachable : sampleSender.Reachable {} :=
    (Reachable.new ()).send refuseAll ⟨1⟩ .reply sampleData .localhost
  have hfits : ¬ RouteMessage.reply.TooLarge {} sampleData := by
    unfold RouteMessage.TooLarge
    decide
  obtain ⟨packet, found, hhanded, hread, hcount, hnames, -⟩ :=
    names_two_nodes_iff hreachable acceptAll ⟨65535⟩ .reply sampleData .localhost rfl
      (hreachable.idle.ne_encode_of_fits _ _ _ rfl hfits)
  have htwo := hnames.2 (by decide)
  rw [htwo.addresses] at hcount
  exact ⟨packet, found, hhanded, hread, hcount, htwo⟩

/-- A node that looks for itself. -/
def selfData : RouteData := { sampleData with target := sampleData.originator }

/-- The request of a node that looks for itself is accepted and sent, and names one node. -/
theorem self_request_names_one_node :
    ¬ ∀ (config : WriterConfig) (s : RouteSender Unit), s.Reachable config →
      ∀ (t : Transport Unit) (store : Store) (m : RouteMessage) (data : RouteData) (nextHop : Ipv6),
        validate data nextHop = .ok () →
        (∀ cause, (s.send t store m data nextHop).answer ≠ .error (.encode cause)) →
        ∃ packet found, s.handed t store m data nextHop = [(packet, nextHop)] ∧
          readPacket packet = some [found] ∧ m.NamesTwoNodes data found := by
  intro h
  have hreachable : (RouteSender.new {} ()).state.Reachable {} := Reachable.new ()
  have hfits : ¬ RouteMessage.request.TooLarge {} selfData := by
    unfold RouteMessage.TooLarge
    decide
  have hvalid : validate selfData .localhost = .ok () := rfl
  have hbuilt := hreachable.idle.ne_encode_of_fits acceptAll ⟨1⟩ .request hvalid hfits
  obtain ⟨packet, found, hhanded, hread, hnames⟩ :=
    h {} _ hreachable acceptAll ⟨1⟩ .request selfData .localhost hvalid hbuilt
  obtain ⟨hhanded', hread'⟩ := hreachable.idle.handed_of_built acceptAll ⟨1⟩ .request hvalid hbuilt
  -- the packet that was handed over is read as the message with one node
  rw [hhanded', List.cons.injEq, Prod.mk.injEq] at hhanded
  rw [← hhanded.1.1, hread', Option.some.injEq, List.cons.injEq] at hread
  rw [← hread.1] at hnames
  exact (RouteMessage.namesTwoNodes_iff _ _ _).1 hnames rfl

end RouteSender

end RouteDiscovery
