/-
# What an answer tells

A send ends in one of several places, and each of them counts and logs for itself: a rejected
address does neither, a message that cannot be built is counted and logged by the sender, a packet
that is not taken is counted by the sender and logged by the delivery, and of a packet that is taken
the message and the bytes are counted apart.

Whatever the way, the answer alone tells what was counted (`SendCounts.account`), which warnings were
logged, and whether a packet was said to be sent (`RouteSender.verdict`); this is
`RouteSender.send_accounts`.  And the length that is answered is that of the packet that the
transport took (`RouteSender.send_taking`).
-/
import RouteDiscovery.Proofs.Route.Erasure
import RouteDiscovery.Proofs.Route.ReplyBuilds

namespace RouteDiscovery

open Log Wire

/-! ## What an answer tells -/

namespace Log.Event

def isWarning (e : Event) : Bool := e.level = .warn

/-- The event that a packet was sent. -/
def isPacketSent (e : Event) : Bool := e.level = .debug ∧ e.message = "packet sent"

/-- The event says what came of a send. -/
def isVerdict (e : Event) : Bool := e.isWarning || e.isPacketSent

lemma not_isVerdict {e : Event} (h : e.level ≠ .warn)
    (h' : e.level = .debug → e.message ≠ "packet sent") : e.isVerdict = false := by
  simp only [isVerdict, isWarning, isPacketSent, Bool.or_eq_false_iff, decide_eq_false_iff_not]
  exact ⟨h, fun hsent => h' hsent.1 hsent.2⟩

lemma filter_isVerdict {events : List Event} (h : ∀ e ∈ events, e.isVerdict = false) :
    events.filter isVerdict = [] :=
  List.filter_eq_nil_iff.2 fun e he => by simp [h e he]

/-- Warnings and packets that were sent are found among the verdicts. -/
lemma filter_filter_isVerdict (events : List Event) :
    (events.filter isVerdict).filter isWarning = events.filter isWarning ∧
      (events.filter isVerdict).filter isPacketSent = events.filter isPacketSent := by
  rw [List.filter_filter, List.filter_filter]
  constructor
  · exact List.filter_congr fun e _ => by cases h : e.isWarning <;> simp [isVerdict, h]
  · exact List.filter_congr fun e _ => by cases h : e.isPacketSent <;> simp [isVerdict, h]

end Log.Event

/-- The counters after a send with this answer. -/
def SendCounts.account (c : SendCounts) (m : RouteMessage) : Except SendError ℕ → SendCounts
  | .ok length => c.sent m length
  | .error (.unspecified _) => c
  | .error (.encode _) => c.encodeFailed
  | .error (.transport _) => c.transportFailed

namespace RouteSender

/-- What the log says of a send with this answer. -/
def verdict (m : RouteMessage) (nextHop : Ipv6) : Except SendError ℕ → List Event
  | .ok length => [sentEvent m length nextHop]
  | .error (.unspecified _) => []
  | .error (.encode e) => [encodeFailedEvent m e]
  | .error (.transport e) => [Delivery.failedEvent { nextHop } e]

/-- The bytes that were sent. -/
def sentBytes : Except SendError ℕ → ℕ
  | .ok length => length
  | .error _ => 0

end RouteSender

/-! ## Building a message -/

namespace RouteMessage

open MessageWriter

lemma quiet_requestScript (data : RouteData) :
    (requestScript data : CallbackScript Numbering Unit).run.Quiet := by
  refine CallbackScript.quiet_bind (CallbackScript.quiet_addAddress _ _) fun originator => ?_
  refine CallbackScript.quiet_bind (CallbackScript.quiet_addAddress _ _) fun _ => ?_
  refine CallbackScript.quiet_bind (CallbackScript.quiet_addTlv _ _ _ _) fun _ => ?_
  exact CallbackScript.quiet_addTlv _ _ _ _

variable {w : MessageWriter} {n : Numbering}

/-- The callbacks of a message log nothing but a step of the store. -/
lemma events_compose (m : RouteMessage) (data : RouteData) (width : ℕ) :
    ∀ e ∈ (compose (m.content data) (w.opening (m.content data) n width)).2.2.events,
      e = n.store.advanceEvent := by
  cases m with
  | request =>
    obtain ⟨headed, hheader, hevents⟩ : ∃ headed, (request.content data).addHeader.run.run
        (w.opening (request.content data) n width) = (.ok (), headed) ∧ headed.events = [] :=
      ⟨_, rfl, rfl⟩
    have hnone : ((request.content data).addAddresses.run.run headed).2.events = [] :=
      ((quiet_requestScript data).events_run headed).trans hevents
    rw [compose_of_header hheader, hnone]
    exact fun e he => absurd he List.not_mem_nil
  | reply =>
    rw [(compose_replyAmid data [] w n width).2]
    exact fun e he => List.mem_singleton.1 he

/-- The last callback of a message logs its number only. -/
lemma events_ending (m : RouteMessage) (data : RouteData) (result : Except WireError Unit) :
    ∀ e ∈ ((m.content data).ending result n).events, e.isVerdict = false := by
  obtain ⟨store, reserved⟩ := n
  cases m <;> cases result <;> cases reserved <;>
    simp [ContentProvider.ending, content, Numbering.commit, Numbering.handBack, Store.release,
      Event.isVerdict, Event.isWarning, Event.isPacketSent]

/-- While a message is built nothing is said of the send. -/
lemma events_create (w : MessageWriter) (m : RouteMessage) (data : RouteData) (n : Numbering) :
    (w.create (m.content data) n).events.filter Event.isVerdict = [] := by
  refine Event.filter_isVerdict fun e he => ?_
  cases hwidth : w.width? (m.content data).type with
  | none =>
    rw [create_unregistered hwidth] at he
    exact absurd he List.not_mem_nil
  | some width =>
    obtain ⟨-, said, hlevel, hsaid, hevents⟩ : (w.create (m.content data) n).context = _ ∧ _ :=
      create_ending hwidth
    rw [hevents, List.mem_append, List.mem_reverse, List.mem_cons] at he
    rcases he with he | rfl | he
    · rw [m.events_compose data width e he]
      exact Event.not_isVerdict nofun nofun
    · refine Event.not_isVerdict (by simp [hlevel]) fun _ => ?_
      rcases hsaid with hsaid | hsaid <;> simp [hsaid]
    · exact m.events_ending data _ e he

end RouteMessage

/-! ## One send -/

namespace RouteSender

variable {τ : Type}

/-- What a step of a sender counts and says is told by its answer. -/
structure Accounts (before : SendCounts) (m : RouteMessage) (nextHop : Ipv6) (sent : Sent τ) :
    Prop where
  counts : sent.state.1.counts = before.account m sent.answer
  verdict : sent.events.filter Event.isVerdict = verdict m nextHop sent.answer

/-- The transport says that it did not take the packet, or the sender that it did. -/
lemma deliver_accounts (s : RouteSender τ) (t : Transport τ) (store : Store) (m : RouteMessage) :
    Accounts s.counts m s.delivery.nextHop (s.deliver t store m) := by
  unfold deliver MessageWriter.flush
  by_cases hempty : s.writer.packet.isEmpty = true
  · simp only [hempty, if_true]
    exact ⟨rfl, rfl⟩
  · simp only [hempty, Delivery.target]
    cases (t.send s.writer.packet.bytes s.delivery.nextHop s.transport).1 with
    | error e => exact ⟨rfl, rfl⟩
    | ok done => exact ⟨rfl, rfl⟩

lemma emit_accounts (s : RouteSender τ) (t : Transport τ) (store : Store) (m : RouteMessage) :
    Accounts s.counts m s.delivery.nextHop (s.emit t store m) := by
  have hquiet := m.events_create s.writer s.delivery.data { store, reserved := s.reserved }
  simp only [emit, conclude]
  generalize s.writer.create (m.content s.delivery.data) { store, reserved := s.reserved } = made
    at hquiet
  cases made.result with
  | error e =>
    refine ⟨rfl, ?_⟩
    simp only [List.filter_append, hquiet, List.nil_append]
    rfl
  | ok done =>
    obtain ⟨hcounts, hverdict⟩ := deliver_accounts
      { s with writer := made.writer, reserved := made.context.reserved } t made.context.store m
    refine ⟨hcounts, ?_⟩
    simp only [List.filter_append, hquiet, List.nil_append]
    exact hverdict

/-- **The answer of a send tells what it counted and what it said.** -/
theorem send_accounts (s : RouteSender τ) (t : Transport τ) (store : Store) (m : RouteMessage)
    (data : RouteData) (nextHop : Ipv6) :
    Accounts s.counts m nextHop (s.send t store m data nextHop) := by
  cases hvalid : validate data nextHop with
  | error e =>
    obtain ⟨role, rfl⟩ := exists_of_validate hvalid
    rw [send_invalid hvalid]
    exact ⟨rfl, rfl⟩
  | ok done =>
    obtain ⟨hcounts, hverdict⟩ :=
      emit_accounts { s with delivery := deliveryOf m data nextHop } t store m
    have hbegin : (sendEvent m data nextHop).isVerdict = false :=
      Event.not_isVerdict nofun fun _ => by cases m <;> simp [sendEvent, sendText]
    rw [send, hvalid]
    refine ⟨hcounts, ?_⟩
    rw [List.filter_cons_of_neg (by simp [hbegin])]
    exact hverdict

end RouteSender

/-- The transport that also writes down the packets that it takes. -/
def Transport.taking {τ : Type} (t : Transport τ) : Transport (τ × List HandedOver) where
  send packet nextHop s :=
    let (answer, state) := t.send packet nextHop s.1
    (answer, state, if answer.toBool then s.2 ++ [(packet, nextHop)] else s.2)

namespace RouteSender

variable {τ : Type}

/-- The packets that the transport takes in a send. -/
def taken (s : RouteSender τ) (t : Transport τ) (store : Store) (m : RouteMessage)
    (data : RouteData) (nextHop : Ipv6) : List HandedOver :=
  (s.logging.send t.taking store m data nextHop).state.1.transport.2

/-- The bytes of some packets. -/
def totalBytes (packets : List HandedOver) : ℕ := (packets.map (·.1.length)).sum

/-- A step over a transport that writes down the packets that it takes: nothing else changes, and
the packets have the length that is answered. -/
structure Takes (sent : Sent (τ × List HandedOver)) (sent' : Sent τ) : Prop where
  answer : sent.answer = sent'.answer
  transport : sent.state.1.transport.1 = sent'.state.1.transport
  store : sent.state.2 = sent'.state.2
  bytes : totalBytes sent.state.1.transport.2 = sentBytes sent'.answer

lemma deliver_taking (s : RouteSender τ) (t : Transport τ) (store : Store) (m : RouteMessage) :
    Takes (s.logging.deliver t.taking store m) (s.deliver t store m) := by
  have hwriter : s.logging.writer = s.writer := rfl
  unfold deliver MessageWriter.flush
  rw [hwriter]
  by_cases hempty : s.writer.packet.isEmpty = true
  · simp only [hempty, if_true]
    exact ⟨rfl, rfl, rfl, rfl⟩
  · simp only [hempty, Delivery.target, Transport.taking, logging]
    cases (t.send s.writer.packet.bytes s.delivery.nextHop s.transport).1 with
    | error e => exact ⟨rfl, rfl, rfl, rfl⟩
    | ok done => exact ⟨rfl, rfl, rfl, rfl⟩

lemma emit_taking (s : RouteSender τ) (t : Transport τ) (store : Store) (m : RouteMessage) :
    Takes (s.logging.emit t.taking store m) (s.emit t store m) := by
  -- the message is built before the transport is called
  have hmade : s.logging.writer.create (m.content s.logging.delivery.data)
      { store, reserved := s.logging.reserved } =
    s.writer.create (m.content s.delivery.data) { store, reserved := s.reserved } := rfl
  simp only [emit, conclude, hmade]
  generalize s.writer.create (m.content s.delivery.data) { store, reserved := s.reserved } = made
  cases made.result with
  | error e => exact ⟨rfl, rfl, rfl, rfl⟩
  | ok done =>
    obtain ⟨hanswer, htransport, hstore, hbytes⟩ := deliver_taking
      { s with writer := made.writer, reserved := made.context.reserved } t made.context.store m
    exact ⟨hanswer, htransport, hstore, hbytes⟩

/-- A send answers the length of the packet that the transport took. -/
lemma send_taking (s : RouteSender τ) (t : Transport τ) (store : Store) (m : RouteMessage)
    (data : RouteData) (nextHop : Ipv6) :
    Takes (s.logging.send t.taking store m data nextHop) (s.send t store m data nextHop) := by
  cases hvalid : validate data nextHop with
  | error e =>
    obtain ⟨role, rfl⟩ := exists_of_validate hvalid
    rw [send_invalid hvalid, send_invalid hvalid]
    exact ⟨rfl, rfl, rfl, rfl⟩
  | ok done =>
    obtain ⟨hanswer, htransport, hstore, hbytes⟩ :=
      emit_taking { s with delivery := deliveryOf m data nextHop } t store m
    rw [send, send, hvalid]
    exact ⟨hanswer, htransport, hstore, hbytes⟩

lemma emit_ne_unspecified (s : RouteSender τ) (t : Transport τ) (store : Store) (m : RouteMessage)
    (role : AddressRole) : (s.emit t store m).answer ≠ .error (.unspecified role) := by
  simp only [emit, conclude]
  cases (s.writer.create (m.content s.delivery.data) { store, reserved := s.reserved }).result with
  | error e => simp
  | ok done =>
    simp only [deliver]
    split <;> simp

/-- The addresses were in order, by this answer. -/
def attempted : Except SendError ℕ → Bool
  | .error (.unspecified _) => false
  | _ => true

/-- An unspecified address is reported by the check of the addresses and nowhere else. -/
lemma attempted_send (s : RouteSender τ) (t : Transport τ) (store : Store) (m : RouteMessage)
    (data : RouteData) (nextHop : Ipv6) :
    attempted (s.send t store m data nextHop).answer = (validate data nextHop).toBool := by
  cases hvalid : validate data nextHop with
  | error e =>
    obtain ⟨role, rfl⟩ := exists_of_validate hvalid
    rw [send_invalid hvalid]
    rfl
  | ok done =>
    have hne := emit_ne_unspecified { s with delivery := deliveryOf m data nextHop } t store m
    rw [send, hvalid]
    unfold attempted
    split
    · next role hrole => exact absurd hrole (hne role)
    · rfl

lemma events_new (config : WriterConfig) (transport : τ) :
    (new config transport).events.filter Event.isVerdict = [] := rfl

end RouteSender

end RouteDiscovery
