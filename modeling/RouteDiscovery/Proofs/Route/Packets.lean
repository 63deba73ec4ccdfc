/-
# The packets of route messages

The bytes of a packet with one route message, written down at once (`RouteMessage.packet`), with the
room that they need.  The rest of the file leads from the scripts of the two messages to these
bytes: the script names one or two nodes, adds a row of TLVs (`RouteMessage.run_addAddresses`), and
leaves a draft (`RouteMessage.draft`) whose frame is the packet without its first byte
(`RouteMessage.frame_draft`).
-/
import RouteDiscovery.Proofs.Wire.Append
import RouteDiscovery.Proofs.Wire.Callbacks
import RouteDiscovery.Route.Content

namespace RouteDiscovery

open Wire

/-! ## The bytes -/

/-- The number of nodes that a message names: one if the originator looks for itself. -/
def RouteData.nodeCount (data : RouteData) : ℕ :=
  if data.originator.addr = data.target.addr then 1 else 2

/-- The index of the target among the addresses. -/
def RouteData.targetIndex (data : RouteData) : ℕ := data.nodeCount - 1

/-- The octets of the addresses, the originator first. -/
def RouteData.addressOctets (data : RouteData) : List UInt8 :=
  if data.originator.addr = data.target.addr then data.originator.addr.octets
  else data.originator.addr.octets ++ data.target.addr.octets

namespace RouteMessage

/-- The bytes that the values of the TLVs need. -/
def tlvArea : RouteMessage → ℕ
  | request => 3
  | reply => 5

def messageSize : RouteMessage → RouteData → ℕ
  | request, data => 23 + 16 * data.nodeCount
  | reply, data => 29 + 16 * data.nodeCount

def tlvLength : RouteMessage → UInt16
  | request => 12
  | reply => 18

/-- The TLVs; a reply carries the number of the target. -/
def tlvOctets : RouteMessage → RouteData → SeqNum → List UInt8
  | request, data, _ =>
    [0, 0x50, 0, 2] ++ wordBytes data.originator.seqNum ++
      [3, 0xD0, 3, 0, 1, data.originator.metric]
  | reply, data, number =>
    [0, 0x50, 0, 2] ++ wordBytes data.originator.seqNum ++
      ([1, 0x50, data.targetIndex.toUInt8, 2] ++ wordBytes number) ++
      [3, 0xD0, 3, data.targetIndex.toUInt8, 1, data.target.metric]

/-- The hop limit in the packet. -/
def hopOctet : RouteMessage → RouteData → UInt8
  | request, data => data.hopLimit
  | reply, _ => 250

def typeOctet : RouteMessage → UInt8
  | request => 10
  | reply => 11

/-- The packet of a message: packet header, type, flags and width, size, hop limit, no TLVs of the
message itself, the addresses, and their TLVs. -/
def packet (m : RouteMessage) (data : RouteData) (number : SeqNum) : List UInt8 :=
  [0, m.typeOctet, 0x4F] ++
    wordBytes (m.messageSize data).toUInt16 ++
    [m.hopOctet data, 0, 0, data.nodeCount.toUInt8, 0] ++ data.addressOctets ++
    (wordBytes m.tlvLength ++ m.tlvOctets data number)

/-! ## The draft -/

def nodes (data : RouteData) : List NetAddr :=
  if data.originator.addr = data.target.addr then [.ofIpv6 data.originator.addr]
  else [.ofIpv6 data.originator.addr, .ofIpv6 data.target.addr]

lemma length_ofIpv6 (x : Ipv6) : (NetAddr.ofIpv6 x).length = nodeAddressLength := x.length_octets

lemma ofIpv6_inj {x y : Ipv6} : NetAddr.ofIpv6 x = NetAddr.ofIpv6 y ↔ x = y := by
  refine ⟨fun h => ?_, congrArg _⟩
  obtain ⟨xs, hxs⟩ := x
  obtain ⟨ys, hys⟩ := y
  obtain rfl : xs = ys := congrArg NetAddr.bytes h
  rfl

lemma length_nodes (data : RouteData) : (nodes data).length = data.nodeCount := by
  unfold nodes RouteData.nodeCount
  split <;> rfl

def tlvs : RouteMessage → RouteData → SeqNum → List AddrTlv
  | request, data, _ =>
    [⟨.originatorSeqNum, 0, wordBytes data.originator.seqNum⟩,
      ⟨.metric, 0, [data.originator.metric]⟩]
  | reply, data, number =>
    [⟨.originatorSeqNum, 0, wordBytes data.originator.seqNum⟩,
      ⟨.targetSeqNum, data.targetIndex, wordBytes number⟩,
      ⟨.metric, data.targetIndex, [data.target.metric]⟩]

/-- The draft of a message whose header is set. -/
def headedDraft (m : RouteMessage) (data : RouteData) (arenaSize : ℕ) : Draft :=
  { Draft.start nodeAddressLength m.table arenaSize with
    header := { flags := .hopLimit, hopLimit := some data.hopLimit } }

/-- The draft of a message that names some nodes. -/
def namedDraft (m : RouteMessage) (data : RouteData) (arenaSize : ℕ) (named : List NetAddr) :
    Draft :=
  { m.headedDraft data arenaSize with addresses := named.map (⟨·, true⟩) }

/-- The draft of a message with its TLVs. -/
def draft (m : RouteMessage) (data : RouteData) (number : SeqNum) (arenaSize : ℕ) : Draft :=
  (m.namedDraft data arenaSize (nodes data)).withTlvs (m.tlvs data number)

/-- The numbers after a message has taken what it carries. -/
def taken : RouteMessage → Numbering → Numbering
  | request, n => n
  | reply, n => n.take.state

/-! ## The scripts -/

variable {data : RouteData}

lemma run_addHeader (m : RouteMessage) (data : RouteData) (context : Numbering) (arenaSize : ℕ) :
    ∃ calls, (m.content data).addHeader.run.run
        { draft := .start nodeAddressLength m.table arenaSize, context } =
      (.ok (), { draft := m.headedDraft data arenaSize, context, calls }) := by
  cases m <;> exact ⟨_, rfl⟩

/-- The originator gets index zero. -/
lemma answer_originator (m : RouteMessage) (data : RouteData) (arenaSize : ℕ) :
    (m.headedDraft data arenaSize).answer (.addAddress (.ofIpv6 data.originator.addr) true) =
      (.ok 0, m.namedDraft data arenaSize [.ofIpv6 data.originator.addr]) :=
  Draft.answer_addAddress_new (length_ofIpv6 _) List.not_mem_nil (Nat.zero_lt_succ _)

/-- The target gets its own index, or that of the originator. -/
lemma answer_target (m : RouteMessage) (data : RouteData) (arenaSize : ℕ) :
    (m.namedDraft data arenaSize [.ofIpv6 data.originator.addr]).answer
        (.addAddress (.ofIpv6 data.target.addr) true) =
      (.ok data.targetIndex, m.namedDraft data arenaSize (nodes data)) := by
  unfold RouteData.targetIndex RouteData.nodeCount nodes
  split
  · next heq =>
    have hindex : (m.namedDraft data arenaSize [.ofIpv6 data.originator.addr]).indexOf?
        (.ofIpv6 data.target.addr) = some 0 := by
      simp [Draft.indexOf?, namedDraft, heq]
    rw [Draft.answer_addAddress_again (length_ofIpv6 _) hindex]
    rfl
  · next hne =>
    have hnew : NetAddr.ofIpv6 data.target.addr ∉
        (m.namedDraft data arenaSize [.ofIpv6 data.originator.addr]).addresses.map (·.addr) := by
      simp only [namedDraft, List.map_cons, List.map_nil, List.mem_singleton, ofIpv6_inj]
      exact fun heq => hne heq.symm
    rw [Draft.answer_addAddress_new (length_ofIpv6 _) hnew (by simp [namedDraft, maxAddresses])]
    rfl

lemma sound_namedDraft (m : RouteMessage) (data : RouteData) (arenaSize : ℕ) :
    (m.namedDraft data arenaSize (nodes data)).Sound := by
  have hcount : (nodes data).length ≤ 2 := by
    rw [length_nodes, RouteData.nodeCount]
    split <;> decide
  refine ⟨fun a ha => ?_, ?_, fun _ he => absurd he List.not_mem_nil,
    fun _ he => absurd he List.not_mem_nil, fun _ he => absurd he List.not_mem_nil,
    fun _ he => absurd he List.not_mem_nil⟩
  · obtain ⟨addr, haddr, rfl⟩ := List.mem_map.1 ha
    unfold nodes at haddr
    split at haddr
    · rw [List.mem_singleton.1 haddr]
      exact length_ofIpv6 _
    · rcases List.mem_pair.1 haddr with rfl | rfl <;> exact length_ofIpv6 _
  · simp only [namedDraft, List.length_map]
    exact Nat.le_trans hcount (by decide)

/-- The nodes are named, and the script goes on with their indexes. -/
lemma run_addNodes {m : RouteMessage} {arenaSize : ℕ} {s : Session Numbering}
    (hs : s.draft = m.headedDraft data arenaSize) (f : ℕ → ℕ → CallbackScript Numbering Unit) :
    ∃ calls, (CallbackScript.addAddress (.ofIpv6 data.originator.addr) true >>= fun i =>
        CallbackScript.addAddress (.ofIpv6 data.target.addr) true >>= fun j => f i j).run.run s =
      (f 0 data.targetIndex).run.run
        { s with draft := m.namedDraft data arenaSize (nodes data), calls } := by
  have hfirst := m.answer_originator data arenaSize
  rw [← hs] at hfirst
  exact ⟨_, (CallbackScript.run_bind_ok (CallbackScript.run_addAddress hfirst)).trans
    (CallbackScript.run_bind_ok (CallbackScript.run_addAddress (m.answer_target data arenaSize)))⟩

/-- After the nodes the script adds its TLVs; a reply has taken its number before. -/
lemma run_addAddresses (m : RouteMessage) (data : RouteData) {arenaSize : ℕ} {s : Session Numbering}
    (hs : s.draft = m.headedDraft data arenaSize) :
    ∃ calls events, (m.content data).addAddresses.run.run s =
      (CallbackScript.addTlvs (m.tlvs data s.context.store.value)).run.run
        { draft := m.namedDraft data arenaSize (nodes data), context := m.taken s.context,
          calls, events } := by
  cases m with
  | request =>
    obtain ⟨calls, hnodes⟩ := run_addNodes hs fun originator _ =>
      addTlvOnce originator .originatorSeqNum (wordBytes data.originator.seqNum) >>= fun _ =>
        addTlvOnce originator .metric [data.originator.metric]
    refine ⟨calls, s.events, hnodes.trans ?_⟩
    exact CallbackScript.run_bind_congr
      (fun _ s => CallbackScript.run_addTlvs_singleton ⟨.metric, 0, _⟩ s) _
  | reply =>
    -- the number is taken before the nodes are named
    have htake := CallbackScript.run_lift_step Numbering.take s
    obtain ⟨calls, hnodes⟩ := run_addNodes (m := reply)
      (s := { s with context := s.context.take.state
                     events := s.context.take.events.reverse ++ s.events }) hs
      fun originator target =>
        addTlvOnce originator .originatorSeqNum (wordBytes data.originator.seqNum) >>= fun _ =>
          addTlvOnce target .targetSeqNum (wordBytes s.context.take.answer) >>= fun _ =>
            addTlvOnce target .metric [data.target.metric]
    refine ⟨calls, s.context.take.events.reverse ++ s.events,
      (CallbackScript.run_bind_ok htake).trans (hnodes.trans ?_)⟩
    exact CallbackScript.run_bind_congr (fun _ s => CallbackScript.run_bind_congr
      (fun _ s => CallbackScript.run_addTlvs_singleton ⟨.metric, data.targetIndex, _⟩ s) s) _

/-- Nothing but the arena can keep out a TLV of a message. -/
lemma admits_tlvs (m : RouteMessage) (data : RouteData) (number : SeqNum) (arenaSize : ℕ) :
    (∀ t ∈ m.tlvs data number, (m.namedDraft data arenaSize (nodes data)).Admits t) ∧
      ((m.tlvs data number).map (·.type)).Nodup := by
  have hpos : 0 < (nodes data).length := by
    unfold nodes
    split <;> exact Nat.zero_lt_succ _
  have htarget : data.targetIndex < (nodes data).length := by
    rw [RouteData.targetIndex, ← length_nodes]
    omega
  have hadmits : ∀ t : AddrTlv, t.type ∈ m.table → t.index < (nodes data).length →
      t.value.length ≤ 2 → (m.namedDraft data arenaSize (nodes data)).Admits t := by
    intro t htype hindex hlength
    refine ⟨htype, ?_, Nat.le_trans hlength (by decide), fun e he => absurd he List.not_mem_nil⟩
    simpa only [namedDraft, List.length_map] using hindex
  cases m with
  | request =>
    have hdistinct : [TlvType.originatorSeqNum, .metric].Nodup := by decide
    refine ⟨fun t ht => ?_, hdistinct⟩
    simp only [tlvs, List.mem_cons, List.not_mem_nil, or_false] at ht
    rcases ht with rfl | rfl
    · exact hadmits _ (by simp [table]) hpos (Nat.le_refl 2)
    · exact hadmits _ (by simp [table]) hpos (Nat.le_succ 1)
  | reply =>
    have hdistinct : [TlvType.originatorSeqNum, .targetSeqNum, .metric].Nodup := by decide
    refine ⟨fun t ht => ?_, hdistinct⟩
    simp only [tlvs, List.mem_cons, List.not_mem_nil, or_false] at ht
    rcases ht with rfl | rfl | rfl
    · exact hadmits _ (by simp [table]) hpos (Nat.le_refl 2)
    · exact hadmits _ (by simp [table]) htarget (Nat.le_refl 2)
    · exact hadmits _ (by simp [table]) htarget (Nat.le_succ 1)

lemma valueBytes_tlvs (m : RouteMessage) (data : RouteData) (number : SeqNum) :
    CallbackScript.valueBytes (m.tlvs data number) = m.tlvArea := by
  cases m <;> rfl

lemma type_content (m : RouteMessage) (data : RouteData) : (m.content data).type = m.type := by
  cases m <;> rfl

variable {w : MessageWriter}

/-- The session in which the content of a message starts. -/
lemma opening_content (m : RouteMessage) (data : RouteData) (context : Numbering)
    (htable : w.table? m.type = some m.table) :
    w.opening (m.content data) context nodeAddressLength =
      { draft := .start nodeAddressLength m.table w.config.addrTlvSize, context } := by
  rw [MessageWriter.opening, type_content, htable]
  rfl

/-- The callbacks of a message end with its TLVs. -/
lemma compose_content (m : RouteMessage) (data : RouteData) (context : Numbering)
    (htable : w.table? m.type = some m.table) :
    ∃ calls events, ∀ r s, (CallbackScript.addTlvs (m.tlvs data context.store.value)).run.run
        { draft := m.namedDraft data w.config.addrTlvSize (nodes data), context := m.taken context,
          calls, events } = (r, s) →
      MessageWriter.compose (m.content data)
        (w.opening (m.content data) context nodeAddressLength) =
      (r, [.header, .addresses], s) := by
  obtain ⟨calls, hheader⟩ := m.run_addHeader data context w.config.addrTlvSize
  obtain ⟨calls', events, hnodes⟩ := m.run_addAddresses data
    (s := { draft := m.headedDraft data w.config.addrTlvSize, context, calls }) rfl
  refine ⟨calls', events, fun r s htlvs => ?_⟩
  rw [opening_content m data context htable, MessageWriter.compose, hheader]
  simp only [hnodes, htlvs]

/-- The values of the TLVs fit the arena: the callbacks leave the draft of the message. -/
lemma compose_of_fits (m : RouteMessage) (data : RouteData) (context : Numbering)
    (htable : w.table? m.type = some m.table) (harena : m.tlvArea ≤ w.config.addrTlvSize) :
    ∃ callbacks s, MessageWriter.compose (m.content data)
        (w.opening (m.content data) context nodeAddressLength) = (.ok (), callbacks, s) ∧
      s.draft = m.draft data context.store.value w.config.addrTlvSize ∧
      s.context = m.taken context := by
  obtain ⟨calls, events, hcompose⟩ := m.compose_content data context htable
  obtain ⟨hadmits, hdistinct⟩ := m.admits_tlvs data context.store.value w.config.addrTlvSize
  have hroom : (m.namedDraft data w.config.addrTlvSize (nodes data)).arena.length +
      CallbackScript.valueBytes (m.tlvs data context.store.value) ≤ w.config.addrTlvSize := by
    rw [valueBytes_tlvs]
    exact Nat.le_trans (Nat.le_of_eq (Nat.zero_add _)) harena
  obtain ⟨calls', htlvs⟩ := CallbackScript.run_addTlvs_of_fits
    (s := { draft := m.namedDraft data w.config.addrTlvSize (nodes data),
            context := m.taken context, calls, events }) hadmits hdistinct hroom
  exact ⟨_, _, hcompose _ _ htlvs, rfl, rfl⟩

/-- The values of the TLVs do not fit the arena: the callbacks fail. -/
lemma compose_exceeded (m : RouteMessage) (data : RouteData) (context : Numbering)
    (htable : w.table? m.type = some m.table) (harena : w.config.addrTlvSize < m.tlvArea) :
    ∃ needed available callbacks s, available < needed ∧
      MessageWriter.compose (m.content data)
          (w.opening (m.content data) context nodeAddressLength) =
        (.error (.capacity .addressTlv needed available), callbacks, s) ∧
      s.context = m.taken context := by
  obtain ⟨calls, events, hcompose⟩ := m.compose_content data context htable
  obtain ⟨hadmits, hdistinct⟩ := m.admits_tlvs data context.store.value w.config.addrTlvSize
  have hroom : w.config.addrTlvSize <
      (m.namedDraft data w.config.addrTlvSize (nodes data)).arena.length +
        CallbackScript.valueBytes (m.tlvs data context.store.value) := by
    rw [valueBytes_tlvs]
    exact Nat.lt_of_lt_of_eq harena (Nat.zero_add _).symm
  obtain ⟨⟨needed, available, hlt, herror⟩, hcontext⟩ := CallbackScript.run_addTlvs_exceeded
    (s := { draft := m.namedDraft data w.config.addrTlvSize (nodes data),
            context := m.taken context, calls, events }) hadmits hdistinct (Nat.zero_le _) hroom
  exact ⟨needed, available, _, _, hlt, hcompose _ _ (Prod.ext herror rfl), hcontext⟩

/-! ## The frame of the draft -/

/-- The TLVs of a message are in order already. -/
lemma sortedTlvs_draft (m : RouteMessage) (data : RouteData) (number : SeqNum) (arenaSize : ℕ) :
    (m.draft data number arenaSize).sortedTlvs = m.tlvs data number := by
  obtain ⟨hadmits, hdistinct⟩ := m.admits_tlvs data number arenaSize
  have htlvs : (m.draft data number arenaSize).tlvs =
      (m.tlvs data number).map (Draft.ranked m.table) :=
    (Draft.tlvs_withTlvs (m.sound_namedDraft data arenaSize) hadmits hdistinct).2
  -- the table lists the types in the order in which the scripts add them
  have hsorted : ((m.tlvs data number).map (Draft.ranked m.table)).Pairwise
      fun s t => Draft.tlvLe s t = true := by
    cases m <;> simp [tlvs, Draft.ranked, Draft.tlvLe, table, List.findIdx_cons,
      TlvType.originatorSeqNum, TlvType.targetSeqNum, TlvType.metric, originatorSeqNumKind,
      targetSeqNumKind, metricKind]
  rw [Draft.sortedTlvs, htlvs, List.mergeSort_of_pairwise hsorted, List.map_map]
  exact List.map_id _

/-- The data with the hop limit that the message gets. -/
def loaded (m : RouteMessage) (data : RouteData) : RouteData :=
  { data with hopLimit := m.hopLimit data }

/-- The bytes of a TLV with a short value. -/
lemma bytes_of_short {t : AddrTlv} (h : t.value.length ≤ maxShortLength) :
    t.bytes = [t.type.kind, if t.type.ext.isSome then 0xD0 else 0x50] ++ t.type.ext.toList ++
      [t.index.toUInt8, t.value.length.toUInt8] ++ t.value := by
  have hshort : t.isLong = false := decide_eq_false (Nat.not_lt.2 h)
  have hflags : t.flags.bits = if t.type.ext.isSome then 0xD0 else 0x50 := by
    rw [AddrTlv.flags, hshort]
    cases t.type.ext.isSome <;> rfl
  simp [AddrTlv.bytes, hflags, AddrTlv.lengthBytes, hshort]

lemma tlvBytes_draft (m : RouteMessage) (data : RouteData) (number : SeqNum) (arenaSize : ℕ) :
    (m.draft data number arenaSize).tlvBytes = m.tlvOctets data number := by
  rw [Draft.tlvBytes, sortedTlvs_draft]
  cases m with
  | request =>
    simp only [tlvs, List.flatMap_cons, List.flatMap_nil]
    rw [bytes_of_short (by simp [maxShortLength]), bytes_of_short (by simp [maxShortLength])]
    rfl
  | reply =>
    simp only [tlvs, List.flatMap_cons, List.flatMap_nil]
    rw [bytes_of_short (by simp [maxShortLength]), bytes_of_short (by simp [maxShortLength]),
      bytes_of_short (by simp [maxShortLength])]
    rfl

lemma length_tlvOctets (m : RouteMessage) (data : RouteData) (number : SeqNum) :
    (m.tlvOctets data number).length = m.tlvLength.toNat := by
  cases m <;> rfl

lemma addressBlock_draft (m : RouteMessage) (data : RouteData) (number : SeqNum)
    (arenaSize : ℕ) : (m.draft data number arenaSize).addressBlock =
      [data.nodeCount.toUInt8, 0] ++ data.addressOctets ++
        (wordBytes m.tlvLength ++ m.tlvOctets data number) := by
  obtain ⟨-, -, -, haddresses⟩ := Draft.withTlvs_frame
    (m.namedDraft data arenaSize (nodes data)) (m.tlvs data number)
  have hbytes : (m.draft data number arenaSize).addressBytes =
      [data.nodeCount.toUInt8, 0] ++ data.addressOctets := by
    rw [Draft.addressBytes, draft, haddresses]
    unfold namedDraft nodes RouteData.nodeCount RouteData.addressOctets
    split <;> simp [NetAddr.ofIpv6]
  have hlength : m.tlvLength.toNat.toUInt16 = m.tlvLength := UInt16.ofNat_toNat
  rw [Draft.addressBlock, tlvBytes_draft, hbytes, length_tlvOctets, hlength]

/-- The flags of a message select the hop limit and nothing else. -/
lemma contains_hopLimit : MsgFlags.hopLimit.contains .originator = false ∧
    MsgFlags.hopLimit.contains .hopLimit = true ∧ MsgFlags.hopLimit.contains .hopCount = false ∧
    MsgFlags.hopLimit.contains .seqNum = false := by decide

/-- What follows the size of the message. -/
lemma body_draft (m : RouteMessage) (data : RouteData) (number : SeqNum) (arenaSize : ℕ) :
    (m.draft data number arenaSize).body =
      [data.hopLimit, 0, 0, data.nodeCount.toUInt8, 0] ++ data.addressOctets ++
        (wordBytes m.tlvLength ++ m.tlvOctets data number) := by
  obtain ⟨-, -, hheader, haddresses⟩ := Draft.withTlvs_frame
    (m.namedDraft data arenaSize (nodes data)) (m.tlvs data number)
  have hfields : (m.draft data number arenaSize).header.fieldBytes = [data.hopLimit] := by
    rw [draft, hheader]
    simp [namedDraft, headedDraft, MsgHeader.fieldBytes, MsgHeader.selected, contains_hopLimit]
  have hsome : (m.draft data number arenaSize).addresses.isEmpty = false := by
    rw [draft, haddresses]
    unfold namedDraft nodes
    split <;> rfl
  rw [Draft.body, hfields, hsome, addressBlock_draft]
  rfl

lemma frameSize_draft (m : RouteMessage) (data : RouteData) (number : SeqNum) (arenaSize : ℕ) :
    (m.draft data number arenaSize).frameSize = m.messageSize data := by
  have haddresses : data.addressOctets.length = 16 * data.nodeCount := by
    unfold RouteData.addressOctets RouteData.nodeCount
    split <;> simp [Ipv6.length_octets]
  rw [Draft.frameSize, body_draft]
  simp only [List.length_append, haddresses, length_tlvOctets, length_wordBytes, List.length_cons,
    List.length_nil]
  cases m
  · have hlength : (request.tlvLength).toNat = 12 := rfl
    rw [hlength, messageSize]
    omega
  · have hlength : (reply.tlvLength).toNat = 18 := rfl
    rw [hlength, messageSize]
    omega

lemma messageSize_loaded (m : RouteMessage) (data : RouteData) :
    m.messageSize (m.loaded data) = m.messageSize data := by
  cases m <;> rfl

/-- **The frame of a route message.**  The frame of the draft is the packet without the packet
header. -/
theorem frame_draft (m : RouteMessage) (data : RouteData) (number : SeqNum) (arenaSize : ℕ) :
    packetHeader :: (m.draft (m.loaded data) number arenaSize).frame m.type =
      m.packet data number := by
  obtain ⟨hwidth, -, hheader, -⟩ := Draft.withTlvs_frame
    (m.namedDraft (m.loaded data) arenaSize (nodes (m.loaded data))) (m.tlvs (m.loaded data) number)
  have hflags : (m.draft (m.loaded data) number arenaSize).header.flagsByte
      (m.draft (m.loaded data) number arenaSize).width = 0x4F := by
    rw [draft, hwidth, hheader]
    show MsgFlags.hopLimit.bits ||| ((nodeAddressLength - 1) % 16).toUInt8 = 0x4F
    decide
  rw [Draft.frame, frameSize_draft, body_draft, hflags]
  cases m <;> rfl

/-- The draft can be written down, and its hop limit is set. -/
lemma complete_draft (m : RouteMessage) (data : RouteData) (number : SeqNum) (arenaSize : ℕ) :
    (m.draft data number arenaSize).Sound ∧ (m.draft data number arenaSize).header.Complete
      (m.draft data number arenaSize).width := by
  obtain ⟨-, -, hheader, -⟩ := Draft.withTlvs_frame (m.namedDraft data arenaSize (nodes data))
    (m.tlvs data number)
  obtain ⟨hadmits, hdistinct⟩ := m.admits_tlvs data number arenaSize
  refine ⟨(Draft.tlvs_withTlvs (m.sound_namedDraft data arenaSize) hadmits hdistinct).1, ?_⟩
  rw [draft, hheader]
  obtain ⟨horiginator, -, hhopCount, hseqNum⟩ := contains_hopLimit
  exact ⟨fun hflag => absurd (horiginator.symm.trans hflag) Bool.false_ne_true,
    fun _ => ⟨data.hopLimit, rfl⟩,
    fun hflag => absurd (hhopCount.symm.trans hflag) Bool.false_ne_true,
    fun hflag => absurd (hseqNum.symm.trans hflag) Bool.false_ne_true⟩

end RouteMessage

end RouteDiscovery
