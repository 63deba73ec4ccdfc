/-
# Delivery through a bounded channel

The sender of a node puts its packets into a bounded channel, and the network takes them out.  Both
sides go on independently, and either may leave at any time.  An `Outlet` is a sender over such a
channel, with the node's store; it also writes down the sends and the packets that were received.
Of the channel only the laws of `Channel` are used.

* `Outlet.Delivers`: what was received and what still waits are the packets of the sends that were
  answered with success, in their order;
* `Outlet.Numbers`: the replies that were handed to the channel, whether it took them or not, carry the
  numbers that follow one another from the first number of the store.

Every step keeps both, so they hold after every run, and `Outlet.delivers_in_order` reads off them
what either side sees of the other.
-/
import Mathlib.Data.List.Induction
import RouteDiscovery.Node.Queue
import RouteDiscovery.Proofs.Route.ReplyNumbers

namespace RouteDiscovery

open Wire RouteSender

/-! ## The channel -/

namespace Channel

variable {κ : Type}

/-- A push leaves who is at the ends. -/
lemma push_frame (ch : Channel κ) (q : κ) (p : QueuedPacket) :
    (ch.view (ch.push q p).2).hasReceiver = (ch.view q).hasReceiver ∧
      (ch.view (ch.push q p).2).hasSender = (ch.view q).hasSender := by
  rcases ch.push_cases q p with ⟨-, -, hview⟩ | ⟨-, -, -, hview⟩ | ⟨-, -, -, hview⟩
  all_goals
    rw [hview]
    exact ⟨rfl, rfl⟩

/-- What a receiver is told when nothing waits. -/
lemma receive_none_iff (ch : Channel κ) (q : κ) :
    ((ch.tryReceive q).1 = .empty ↔
        (ch.view q).packets = [] ∧ (ch.view q).hasSender = true) ∧
      ((ch.tryReceive q).1 = .disconnected ↔
        (ch.view q).packets = [] ∧ (ch.view q).hasSender = false) := by
  cases hpackets : (ch.view q).packets with
  | nil =>
    rw [(ch.tryReceive_nothing hpackets).1]
    cases (ch.view q).hasSender <;> simp
  | cons p rest =>
    rw [(ch.tryReceive_packet hpackets).1]
    simp

end Channel

/-! ## What is seen of a packet -/

/-- A packet of the queue with the node that gets it. -/
def QueuedPacket.handedOver (p : QueuedPacket) : HandedOver := (p.bytes, p.nextHop)

/-- The number of the target that a reader finds in a packet. -/
def HandedOver.targetSeqNum? (p : HandedOver) : Option SeqNum :=
  match readPacket p.1 with
  | some [m] => m.targetSeqNum?
  | _ => none

/-- The number in the packet of a send that handed one packet over. -/
def HandedOver.only? : List HandedOver → Option SeqNum
  | [p] => p.targetSeqNum?
  | _ => none

/-- The number that a message carries. -/
def RouteMessage.carries : RouteMessage → SeqNum → Option SeqNum
  | request, _ => none
  | reply, number => some number

lemma RouteMessage.targetSeqNum?_packet (m : RouteMessage) (data : RouteData) (number : SeqNum)
    (nextHop : Ipv6) :
    HandedOver.targetSeqNum? (m.packet data number, nextHop) = m.carries number := by
  unfold HandedOver.targetSeqNum?
  rw [m.readPacket_packet]
  cases m with
  | request =>
    have htlvs : ((request.draft (request.loaded data) number 0).message request.type).tlvs =
        request.tlvs (request.loaded data) number := request.sortedTlvs_draft _ _ _
    simp only [Message.targetSeqNum?, htlvs]
    rfl
  | reply => exact targetSeqNum?_reply (reply.loaded data) number 0

namespace SendRecord

/-- Whether the packet was taken. -/
def isOk (r : SendRecord) : Bool :=
  match r.answer with
  | some (.ok _) => true
  | _ => false

/-- A send succeeds if its packet is taken. -/
lemma isOk_of_answer {r : SendRecord} {length : ℕ} {taken : Except TransportError Unit}
    (h : r.answer = some (answerOf length taken)) : r.isOk = taken.toBool := by
  rw [isOk, h]
  cases taken <;> rfl

/-- A reply that was handed over is sent, whether it is taken or not. -/
lemma isSentReply_of_answer {r : SendRecord} {length : ℕ} {taken : Except TransportError Unit}
    (hreply : r.message = .reply) (h : r.answer = some (answerOf length taken)) :
    r.isSentReply = true := by
  rw [isSentReply, hreply, h]
  cases taken <;> rfl

lemma carried?_eq (r : SendRecord) : r.carried? = HandedOver.only? r.handed := by
  rw [carried?]
  rcases r.handed with _ | ⟨p, _ | ⟨p', rest⟩⟩ <;> rfl

end SendRecord

/-! ## Outlets -/

/-- A sender over a channel in state `κ`. -/
structure Outlet (κ : Type) where
  sender : RouteSender κ
  store : Store
  /-- The sends so far. -/
  sends : List SendRecord := []
  /-- The packets that were received so far. -/
  received : List HandedOver := []

namespace Outlet

/-- What either side does. -/
inductive Step where
  | send (m : RouteMessage) (data : RouteData) (nextHop : Ipv6)
  | receive
  | dropReceiver
  | dropSender

variable {κ : Type} {ch : Channel κ} {config : WriterConfig} {depth : ℕ} {start : Store}
  {o : Outlet κ} {m : RouteMessage} {data : RouteData} {nextHop : Ipv6}

abbrev queue (o : Outlet κ) : κ := o.sender.transport

/-- What is seen of the channel. -/
abbrev seen (ch : Channel κ) (o : Outlet κ) : Queue := ch.view o.queue

def onQueue (o : Outlet κ) (q : κ) : Outlet κ :=
  { o with sender := { o.sender with transport := q } }

/-- What a send gives. -/
abbrev sent (ch : Channel κ) (o : Outlet κ) (m : RouteMessage) (data : RouteData) (nextHop : Ipv6) :
    Sent κ :=
  o.sender.send ch.transport o.store m data nextHop

/-- What is written down of a send. -/
def record (ch : Channel κ) (o : Outlet κ) (m : RouteMessage) (data : RouteData) (nextHop : Ipv6) :
    SendRecord where
  message := m
  answer := some (o.sent ch m data nextHop).answer
  handed := o.sender.handed ch.transport o.store m data nextHop
  before := o.store
  after := (o.sent ch m data nextHop).state.2

/-- The outlet after a send. -/
def send (ch : Channel κ) (o : Outlet κ) (m : RouteMessage) (data : RouteData) (nextHop : Ipv6) :
    Outlet κ :=
  { o with
    sender := (o.sent ch m data nextHop).state.1
    store := (o.sent ch m data nextHop).state.2
    sends := o.sends ++ [o.record ch m data nextHop] }

/-- The outlet after the network has looked for a packet. -/
def receive (ch : Channel κ) (o : Outlet κ) : Outlet κ :=
  match ch.tryReceive o.queue with
  | (.packet p, q) => { o.onQueue q with received := o.received ++ [p.handedOver] }
  | (_, q) => o.onQueue q

/-- Carries out a step; a side that has left does nothing any more. -/
def step (ch : Channel κ) (o : Outlet κ) : Step → Outlet κ
  | .send m data nextHop => if (o.seen ch).hasSender then o.send ch m data nextHop else o
  | .receive => if (o.seen ch).hasReceiver then o.receive ch else o
  | .dropReceiver => o.onQueue (ch.dropReceiver o.queue)
  | .dropSender => o.onQueue (ch.dropSender o.queue)

/-- A new sender over a channel of a depth, after a run. -/
def after (ch : Channel κ) (config : WriterConfig) (depth : ℕ) (start : Store)
    (steps : List Step) : Outlet κ :=
  steps.foldl (step ch)
    { sender := (RouteSender.new config (ch.ofDepth depth)).state, store := start }

/-- The sends that were answered with success. -/
def okSends (o : Outlet κ) : List SendRecord := o.sends.filter (·.isOk)

/-- The replies that were handed to the channel, whether it took them or not. -/
def sentReplies (o : Outlet κ) : List SendRecord := o.sends.filter (·.isSentReply)

/-! ## One send -/

/-- The outcomes of a send: nothing is handed over and the store stays, or the channel is asked to
take the packet, and the number is spent whatever it answers. -/
lemma record_cases (ch : Channel κ) (hs : o.sender.Idle config) (m : RouteMessage)
    (data : RouteData) (nextHop : Ipv6) :
    let r := o.record ch m data nextHop
    let p : QueuedPacket := ⟨m.packet data o.store.value, nextHop⟩
    (r.isOk = false ∧ r.isSentReply = false ∧ r.handed = [] ∧ r.after = o.store ∧
        (o.send ch m data nextHop).queue = o.queue) ∨
      (r.answer = some (answerOf (m.messageSize data + 1) (ch.push o.queue p).1) ∧
        r.handed = [p.handedOver] ∧ r.after = m.spent o.store ∧
        (o.send ch m data nextHop).queue = (ch.push o.queue p).2) := by
  intro r p
  cases hvalid : validate data nextHop with
  | error e =>
    obtain ⟨role, rfl⟩ := exists_of_validate hvalid
    have hsent : o.sent ch m data nextHop = _ :=
      send_invalid hvalid o.sender ch.transport o.store m
    have hhanded : r.handed = [] := by
      show o.sender.handed ch.transport o.store m data nextHop = []
      rw [handed, send_invalid hvalid]
      rfl
    refine .inl ⟨?_, ?_, hhanded, ?_, ?_⟩
    · simp only [r, record, SendRecord.isOk, hsent]
    · cases m <;> simp only [r, record, SendRecord.isSentReply, hsent]
    · simp only [r, record, hsent]
    · simp only [send, queue, hsent]
  | ok done =>
    obtain ⟨hnone, honce⟩ := hs.handed_eq ch.transport o.store m hvalid
    by_cases h : RouteMessage.TooLarge config m data
    · obtain ⟨⟨_, _, _, -, hanswer⟩, htransport, hstore, -⟩ :=
        hs.send_exceeded ch.transport o.store m hvalid h
      refine .inl ⟨?_, ?_, hnone h, hstore, htransport⟩
      · simp only [r, record, SendRecord.isOk, hanswer]
      · cases m <;> simp only [r, record, SendRecord.isSentReply, hanswer]
    · obtain ⟨hanswer, htransport, hstore, -⟩ :=
        hs.send_of_fits ch.transport o.store m hvalid h
      exact .inr ⟨congrArg some hanswer, honce h, hstore, htransport⟩

/-! ## What was sent arrives -/

/-- What was received and what waits are the packets of the successful sends, one each. -/
structure Delivers (ch : Channel κ) (config : WriterConfig) (depth : ℕ) (o : Outlet κ) : Prop where
  idle : o.sender.Idle config
  capacity : (o.seen ch).capacity = max depth 1
  room : (o.seen ch).packets.length ≤ (o.seen ch).capacity
  delivered : o.received.map ([·]) <+: o.okSends.map (·.handed)
  /-- Nothing is lost as long as there is a receiver. -/
  kept : (o.seen ch).hasReceiver = true → o.okSends.map (·.handed) =
    (o.received ++ (o.seen ch).packets.map QueuedPacket.handedOver).map ([·])

lemma okSends_send (ch : Channel κ) (o : Outlet κ) (m : RouteMessage) (data : RouteData)
    (nextHop : Ipv6) :
    (o.send ch m data nextHop).okSends = o.okSends ++
      if (o.record ch m data nextHop).isOk then [o.record ch m data nextHop] else [] := by
  unfold okSends
  show (o.sends ++ [o.record ch m data nextHop]).filter _ = _
  rw [List.filter_append, List.filter_singleton]
  cases (o.record ch m data nextHop).isOk <;> rfl

/-- What is delivered is told from the successful sends, the received packets and what is seen of
the channel. -/
lemma Delivers.of_same {o' : Outlet κ} (h : o.Delivers ch config depth)
    (hidle : o'.sender.Idle config) (hsends : o'.okSends = o.okSends)
    (hreceived : o'.received = o.received) (hseen : o'.seen ch = o.seen ch) :
    o'.Delivers ch config depth := by
  refine ⟨hidle, ?_, ?_, ?_, ?_⟩
  · rw [hseen]
    exact h.capacity
  · rw [hseen]
    exact h.room
  · rw [hsends, hreceived]
    exact h.delivered
  · rw [hseen, hsends, hreceived]
    exact h.kept

/-- A send that fails leaves what was sent and what waits. -/
lemma Delivers.send_failed (h : o.Delivers ch config depth)
    (hfailed : (o.record ch m data nextHop).isOk = false)
    (hseen : (o.send ch m data nextHop).seen ch = o.seen ch) :
    (o.send ch m data nextHop).Delivers ch config depth := by
  refine h.of_same (h.idle.send ch.transport o.store m data nextHop) ?_ rfl hseen
  rw [okSends_send, hfailed]
  exact List.append_nil _

/-- The packet of a send that succeeds waits behind those that waited. -/
lemma Delivers.send_taken (h : o.Delivers ch config depth) {p : QueuedPacket}
    (hok : (o.record ch m data nextHop).isOk = true)
    (hhanded : (o.record ch m data nextHop).handed = [p.handedOver])
    (hreceiver : (o.seen ch).hasReceiver = true)
    (hlt : (o.seen ch).packets.length < (o.seen ch).capacity)
    (hseen : (o.send ch m data nextHop).seen ch =
      { o.seen ch with packets := (o.seen ch).packets ++ [p] }) :
    (o.send ch m data nextHop).Delivers ch config depth := by
  have hsends : (o.send ch m data nextHop).okSends =
      o.okSends ++ [o.record ch m data nextHop] := by
    rw [okSends_send, hok]
    rfl
  have hreceived : (o.send ch m data nextHop).received = o.received := rfl
  refine ⟨h.idle.send ch.transport o.store m data nextHop, ?_, ?_, ?_, fun _ => ?_⟩
  · rw [hseen]
    exact h.capacity
  · rw [hseen, List.length_append]
    exact hlt
  · rw [hsends, List.map_append]
    exact h.delivered.trans (List.prefix_append _ _)
  · rw [hsends, hseen, hreceived, List.map_append, h.kept hreceiver, List.map_singleton, hhanded]
    simp only [List.map_append, List.append_assoc, List.map_cons, List.map_nil]

lemma Delivers.send (h : o.Delivers ch config depth) (m : RouteMessage) (data : RouteData)
    (nextHop : Ipv6) : (o.send ch m data nextHop).Delivers ch config depth := by
  rcases record_cases ch h.idle m data nextHop with
    ⟨hfailed, -, -, -, hqueue⟩ | ⟨hanswer, hhanded, -, hqueue⟩
  · exact h.send_failed hfailed (congrArg ch.view hqueue)
  have hok := SendRecord.isOk_of_answer hanswer
  have hseen := congrArg ch.view hqueue
  rcases ch.push_cases o.queue ⟨m.packet data o.store.value, nextHop⟩ with
    ⟨-, hclosed, hsame⟩ | ⟨-, -, hfull, hsame⟩ | ⟨hreceiver, hlt, htaken, hmore⟩
  · rw [hclosed] at hok
    exact h.send_failed hok (hseen.trans hsame)
  · rw [hfull] at hok
    exact h.send_failed hok (hseen.trans hsame)
  · rw [htaken] at hok
    exact h.send_taken hok hhanded hreceiver hlt (hseen.trans hmore)

/-- Where nothing waits, the network gets nothing. -/
lemma receive_of_nil (hnone : (o.seen ch).packets = []) :
    ∃ q, ch.view q = o.seen ch ∧ o.receive ch = o.onQueue q := by
  obtain ⟨hanswer, hview⟩ := ch.tryReceive_nothing hnone
  refine ⟨_, hview, ?_⟩
  unfold receive
  rcases hreceive : ch.tryReceive o.queue with ⟨answer, q⟩
  rw [hreceive] at hanswer
  cases answer with
  | packet p => cases hsender : (o.seen ch).hasSender <;> simp [hsender] at hanswer
  | empty => rfl
  | disconnected => rfl

/-- The network gets the packet that has waited longest. -/
lemma receive_of_cons {p : QueuedPacket} {rest : List QueuedPacket}
    (hsome : (o.seen ch).packets = p :: rest) :
    ∃ q, ch.view q = { o.seen ch with packets := rest } ∧
      o.receive ch = { o.onQueue q with received := o.received ++ [p.handedOver] } := by
  obtain ⟨hanswer, hview⟩ := ch.tryReceive_packet hsome
  refine ⟨_, hview, ?_⟩
  unfold receive
  rcases hreceive : ch.tryReceive o.queue with ⟨answer, q⟩
  rw [hreceive] at hanswer
  rw [show answer = .packet p from hanswer]

lemma Delivers.receive (h : o.Delivers ch config depth)
    (hreceiver : (o.seen ch).hasReceiver = true) : (o.receive ch).Delivers ch config depth := by
  cases hpackets : (o.seen ch).packets with
  | nil =>
    obtain ⟨q, hsame, hreceive⟩ := receive_of_nil hpackets
    rw [hreceive]
    exact h.of_same ⟨h.idle.writer, h.idle.reserved⟩ rfl rfl hsame
  | cons p rest =>
    obtain ⟨q, hfewer, hreceive⟩ := receive_of_cons hpackets
    have hkept := h.kept hreceiver
    have hroom := h.room
    rw [hpackets] at hkept hroom
    -- the packet goes from the channel to the received ones
    have hmoved : o.okSends.map (·.handed) =
        ((o.received ++ [p.handedOver]) ++ rest.map QueuedPacket.handedOver).map ([·]) := by
      rw [hkept, List.map_cons, List.append_assoc]
      rfl
    have hseen : (o.receive ch).seen ch = { o.seen ch with packets := rest } := by
      rw [hreceive]
      exact hfewer
    refine ⟨?_, ?_, ?_, ?_, fun _ => ?_⟩
    · rw [hreceive]
      exact ⟨h.idle.writer, h.idle.reserved⟩
    · rw [hseen]
      exact h.capacity
    · rw [hseen]
      exact Nat.le_of_succ_le hroom
    · rw [hreceive]
      show (o.received ++ [p.handedOver]).map ([·]) <+: o.okSends.map (·.handed)
      rw [hmoved]
      exact (List.prefix_append _ _).map _
    · rw [hseen, hreceive]
      exact hmoved

lemma Delivers.step (h : o.Delivers ch config depth) (s : Step) :
    (o.step ch s).Delivers ch config depth := by
  have hidle (q : κ) : (o.onQueue q).sender.Idle config := ⟨h.idle.writer, h.idle.reserved⟩
  cases s with
  | send m data nextHop =>
    simp only [Outlet.step]
    split
    · exact h.send m data nextHop
    · exact h
  | receive =>
    simp only [Outlet.step]
    split
    · next hreceiver => exact h.receive hreceiver
    · exact h
  | dropReceiver =>
    have hseen : (o.step ch .dropReceiver).seen ch = _ := ch.view_dropReceiver o.queue
    refine ⟨hidle _, ?_, ?_, h.delivered, ?_⟩
    · rw [hseen]
      exact h.capacity
    · rw [hseen]
      exact Nat.zero_le _
    · rw [hseen]
      exact fun hreceiver => absurd hreceiver Bool.false_ne_true
  | dropSender =>
    have hseen : (o.step ch .dropSender).seen ch = _ := ch.view_dropSender o.queue
    refine ⟨hidle _, ?_, ?_, h.delivered, ?_⟩
    · rw [hseen]
      exact h.capacity
    · rw [hseen]
      exact h.room
    · rw [hseen]
      exact h.kept

/-! ## Replies use up their numbers -/

/-- The replies that were handed to the channel carry the numbers from the first one on, and each has
taken the store one number further. -/
structure Numbers (start : Store) (o : Outlet κ) : Prop where
  carried : o.sends.filterMap (·.carried?) =
    (List.range o.sentReplies.length).map (SeqNum.next^[·] start.value)
  store : o.store.value = SeqNum.next^[o.sentReplies.length] start.value
  spent : ∀ r ∈ o.sends, r.isSentReply = true → r.after = r.before.advance

lemma sentReplies_send (ch : Channel κ) (o : Outlet κ) (m : RouteMessage) (data : RouteData)
    (nextHop : Ipv6) :
    (o.send ch m data nextHop).sentReplies = o.sentReplies ++
      if (o.record ch m data nextHop).isSentReply then [o.record ch m data nextHop] else [] := by
  unfold sentReplies
  show (o.sends ++ [o.record ch m data nextHop]).filter _ = _
  rw [List.filter_append, List.filter_singleton]
  cases (o.record ch m data nextHop).isSentReply <;> rfl

/-- The numbers are spent if that of the last send is. -/
lemma Numbers.spent_send (h : o.Numbers start)
    (hlast : (o.record ch m data nextHop).isSentReply = true →
      (o.record ch m data nextHop).after = o.store.advance) :
    ∀ r ∈ (o.send ch m data nextHop).sends, r.isSentReply = true → r.after = r.before.advance := by
  intro r hr hreply
  rcases List.mem_append.1 hr with hr | hr
  · exact h.spent r hr hreply
  · rw [List.mem_singleton.1 hr] at hreply ⊢
    exact hlast hreply

lemma Numbers.send_other (h : o.Numbers start)
    (hno : (o.record ch m data nextHop).isSentReply = false)
    (hnone : (o.record ch m data nextHop).carried? = none)
    (hsame : (o.record ch m data nextHop).after = o.store) :
    (o.send ch m data nextHop).Numbers start := by
  have hsends : (o.send ch m data nextHop).sends = o.sends ++ [o.record ch m data nextHop] := rfl
  have hreplies : (o.send ch m data nextHop).sentReplies = o.sentReplies := by
    rw [sentReplies_send, hno]
    exact List.append_nil _
  refine ⟨?_, ?_, h.spent_send fun hyes => absurd (hno.symm.trans hyes) Bool.false_ne_true⟩
  · rw [hsends, hreplies, List.filterMap_append, h.carried, List.filterMap_cons_none hnone]
    exact List.append_nil _
  · rw [hreplies, ← h.store]
    exact congrArg Store.value hsame

lemma Numbers.send_reply (h : o.Numbers start)
    (hyes : (o.record ch m data nextHop).isSentReply = true)
    (hnumber : (o.record ch m data nextHop).carried? = some o.store.value)
    (hafter : (o.record ch m data nextHop).after = o.store.advance) :
    (o.send ch m data nextHop).Numbers start := by
  have hsends : (o.send ch m data nextHop).sends = o.sends ++ [o.record ch m data nextHop] := rfl
  have hcount : (o.send ch m data nextHop).sentReplies.length = o.sentReplies.length + 1 := by
    rw [sentReplies_send, hyes]
    exact List.length_append
  refine ⟨?_, ?_, h.spent_send fun _ => hafter⟩
  · rw [hsends, hcount, List.filterMap_append, h.carried, List.range_succ, List.map_append,
      List.filterMap_cons_some hnumber, h.store]
    rfl
  · rw [hcount, Function.iterate_succ_apply', ← h.store]
    exact congrArg Store.value hafter

lemma Numbers.send (ch : Channel κ) (h : o.Numbers start) (hidle : o.sender.Idle config)
    (m : RouteMessage) (data : RouteData) (nextHop : Ipv6) : (o.send ch m data nextHop).Numbers start := by
  have hcarried := (o.record ch m data nextHop).carried?_eq
  rcases record_cases ch hidle m data nextHop with
    ⟨-, hno, hnothing, hsame, -⟩ | ⟨hanswer, hhanded, hafter, -⟩
  · rw [hnothing] at hcarried
    exact h.send_other hno hcarried hsame
  · rw [hhanded, HandedOver.only?, QueuedPacket.handedOver,
      RouteMessage.targetSeqNum?_packet] at hcarried
    cases m with
    | request => exact h.send_other rfl hcarried hafter
    | reply => exact h.send_reply (SendRecord.isSentReply_of_answer rfl hanswer) hcarried hafter

/-- Receiving and leaving send nothing. -/
lemma Numbers.of_same {o' : Outlet κ} (h : o.Numbers start) (hsends : o'.sends = o.sends)
    (hstore : o'.store = o.store) : o'.Numbers start := by
  obtain ⟨hcarried, hvalue, hspent⟩ := h
  have hreplies : o'.sentReplies = o.sentReplies := by rw [sentReplies, hsends, sentReplies]
  refine ⟨?_, ?_, ?_⟩
  · rw [hsends, hreplies]
    exact hcarried
  · rw [hstore, hreplies]
    exact hvalue
  · rw [hsends]
    exact hspent

lemma Numbers.step (ch : Channel κ) (h : o.Numbers start) (hidle : o.sender.Idle config) (s : Step) :
    (o.step ch s).Numbers start := by
  cases s with
  | send m data nextHop =>
    simp only [Outlet.step]
    split
    · exact h.send ch hidle m data nextHop
    · exact h
  | receive =>
    simp only [Outlet.step]
    split
    · cases hpackets : (o.seen ch).packets with
      | nil =>
        obtain ⟨q, -, hreceive⟩ := receive_of_nil hpackets
        rw [hreceive]
        exact h.of_same rfl rfl
      | cons p rest =>
        obtain ⟨q, -, hreceive⟩ := receive_of_cons hpackets
        rw [hreceive]
        exact h.of_same rfl rfl
    · exact h
  | dropReceiver => exact h.of_same rfl rfl
  | dropSender => exact h.of_same rfl rfl

/-! ## Whole runs -/

/-- A send leaves who is at the ends of the channel. -/
lemma frame_send (ch : Channel κ) (hidle : o.sender.Idle config) (m : RouteMessage)
    (data : RouteData) (nextHop : Ipv6) :
    ((o.send ch m data nextHop).seen ch).hasReceiver = (o.seen ch).hasReceiver ∧
      ((o.send ch m data nextHop).seen ch).hasSender = (o.seen ch).hasSender := by
  rcases record_cases ch hidle m data nextHop with ⟨-, -, -, -, hqueue⟩ | ⟨-, -, -, hqueue⟩
  · rw [seen, hqueue]
    exact ⟨rfl, rfl⟩
  · rw [seen, hqueue]
    exact ch.push_frame _ _

/-- So does a look for a packet. -/
lemma frame_receive (ch : Channel κ) (o : Outlet κ) :
    ((o.receive ch).seen ch).hasReceiver = (o.seen ch).hasReceiver ∧
      ((o.receive ch).seen ch).hasSender = (o.seen ch).hasSender := by
  cases hpackets : (o.seen ch).packets with
  | nil =>
    obtain ⟨q, hsame, hreceive⟩ := receive_of_nil hpackets
    rw [hreceive]
    show (ch.view q).hasReceiver = _ ∧ (ch.view q).hasSender = _
    rw [hsame]
    exact ⟨rfl, rfl⟩
  | cons p rest =>
    obtain ⟨q, hfewer, hreceive⟩ := receive_of_cons hpackets
    rw [hreceive]
    show (ch.view q).hasReceiver = _ ∧ (ch.view q).hasSender = _
    rw [hfewer]
    exact ⟨rfl, rfl⟩

/-- Nobody leaves but by leaving. -/
lemma frame_step (ch : Channel κ) (hidle : o.sender.Idle config) (s : Step) :
    (((o.step ch s).seen ch).hasReceiver = true ↔
        (o.seen ch).hasReceiver = true ∧ s ≠ .dropReceiver) ∧
      (((o.step ch s).seen ch).hasSender = true ↔
        (o.seen ch).hasSender = true ∧ s ≠ .dropSender) := by
  cases s with
  | send m data nextHop =>
    obtain ⟨hreceiver, hsender⟩ := frame_send ch hidle m data nextHop
    simp only [Outlet.step]
    split
    · rw [hreceiver, hsender]
      simp
    · simp
  | receive =>
    obtain ⟨hreceiver, hsender⟩ := frame_receive ch o
    simp only [Outlet.step]
    split
    · rw [hreceiver, hsender]
      simp
    · simp
  | dropReceiver =>
    have hseen : (o.step ch .dropReceiver).seen ch = _ := ch.view_dropReceiver o.queue
    rw [hseen]
    simp
  | dropSender =>
    have hseen : (o.step ch .dropSender).seen ch = _ := ch.view_dropSender o.queue
    rw [hseen]
    simp

/-- What is known of an outlet after a run. -/
structure Reached (ch : Channel κ) (config : WriterConfig) (depth : ℕ) (start : Store)
    (steps : List Step) (o : Outlet κ) : Prop where
  delivers : o.Delivers ch config depth
  numbers : o.Numbers start
  receiver : (o.seen ch).hasReceiver = true ↔ .dropReceiver ∉ steps
  sender : (o.seen ch).hasSender = true ↔ .dropSender ∉ steps

lemma reached_after (ch : Channel κ) (config : WriterConfig) (depth : ℕ) (start : Store)
    (steps : List Step) :
    (after ch config depth start steps).Reached ch config depth start steps := by
  induction steps using List.reverseRecOn with
  | nil =>
    have hseen : (after ch config depth start []).seen ch = { capacity := max depth 1 } :=
      ch.view_opened (Nat.le_max_right depth 1)
    refine ⟨⟨(Reachable.new _).idle, ?_, ?_, ?_, ?_⟩, ?_, ?_, ?_⟩
    · rw [hseen]
    · rw [hseen]
      exact Nat.zero_le _
    · exact List.prefix_refl _
    · rw [hseen]
      exact fun _ => rfl
    · exact ⟨rfl, rfl, fun _ hr => absurd hr List.not_mem_nil⟩
    · rw [hseen]
      exact ⟨fun _ => List.not_mem_nil, fun _ => rfl⟩
    · rw [hseen]
      exact ⟨fun _ => List.not_mem_nil, fun _ => rfl⟩
  | append_singleton steps s ih =>
    obtain ⟨hdelivers, hnumbers, hreceiver, hsender⟩ := ih
    have hlast : after ch config depth start (steps ++ [s]) =
        (after ch config depth start steps).step ch s := by
      rw [after, List.foldl_append]
      rfl
    obtain ⟨hreceiver', hsender'⟩ := frame_step ch hdelivers.idle s
    rw [hlast]
    refine ⟨hdelivers.step s, hnumbers.step ch hdelivers.idle s, ?_, ?_⟩
    · rw [hreceiver', hreceiver, List.mem_append, List.mem_singleton, not_or, ne_comm]
    · rw [hsender', hsender, List.mem_append, List.mem_singleton, not_or, ne_comm]

/-- As long as there is a receiver, what was received is all that was taken if nothing waits. -/
lemma Delivers.drained_iff (h : o.Delivers ch config depth)
    (hreceiver : (o.seen ch).hasReceiver = true) :
    o.received.map ([·]) = o.okSends.map (·.handed) ↔ (o.seen ch).packets = [] := by
  rw [h.kept hreceiver, List.map_append, List.self_eq_append_right, List.map_eq_nil_iff,
    List.map_eq_nil_iff]

/-- As long as there is a receiver, what was taken and not received waits. -/
lemma Delivers.length_okSends (h : o.Delivers ch config depth)
    (hreceiver : (o.seen ch).hasReceiver = true) :
    o.okSends.length = o.received.length + (o.seen ch).packets.length := by
  have hlength := congrArg List.length (h.kept hreceiver)
  simpa only [List.length_map, List.length_append] using hlength

/-- What a send is answered whose message can be built. -/
lemma Delivers.answer_cases (h : o.Delivers ch config depth)
    (hvalid : validate data nextHop = .ok ()) (hfits : ¬ RouteMessage.TooLarge config m data) :
    ((o.seen ch).hasReceiver = false ∧
        (o.sent ch m data nextHop).answer = .error (.transport .closed)) ∨
      ((o.seen ch).hasReceiver = true ∧ o.okSends.length = o.received.length + max depth 1 ∧
        (o.sent ch m data nextHop).answer = .error (.transport .queueFull)) ∨
      ((o.seen ch).hasReceiver = true ∧ o.okSends.length < o.received.length + max depth 1 ∧
        (o.sent ch m data nextHop).answer = .ok (m.messageSize data + 1)) := by
  have hanswer : (o.sent ch m data nextHop).answer = answerOf (m.messageSize data + 1)
      (ch.push o.queue ⟨m.packet data o.store.value, nextHop⟩).1 :=
    (h.idle.send_of_fits ch.transport o.store m hvalid hfits).1
  rw [hanswer]
  rcases ch.push_cases o.queue ⟨m.packet data o.store.value, nextHop⟩ with
    ⟨hreceiver, hclosed, -⟩ | ⟨hreceiver, hle, hfull, -⟩ | ⟨hreceiver, hlt, htaken, -⟩
  · rw [hclosed]
    exact .inl ⟨hreceiver, rfl⟩
  · have hfilled : (o.seen ch).packets.length = max depth 1 :=
      Nat.le_antisymm (h.room.trans_eq h.capacity) (h.capacity.symm.trans_le hle)
    rw [hfull, h.length_okSends hreceiver, hfilled]
    exact .inr (.inl ⟨hreceiver, rfl, rfl⟩)
  · have hroom : (o.seen ch).packets.length < max depth 1 := hlt.trans_eq h.capacity
    rw [htaken, h.length_okSends hreceiver]
    exact .inr (.inr ⟨hreceiver, Nat.add_lt_add_left hroom _, rfl⟩)

/-- The numbers that were received are some of those that the replies used up, in their order. -/
lemma Reached.received_sublist {steps : List Step} (h : o.Reached ch config depth start steps) :
    (o.received.filterMap (·.targetSeqNum?)).Sublist
      ((List.range o.sentReplies.length).map (SeqNum.next^[·] start.value)) := by
  have hreceived : o.received.filterMap (·.targetSeqNum?) =
      (o.received.map ([·])).filterMap HandedOver.only? := by
    rw [List.filterMap_map]
    rfl
  have hsends : (o.okSends.map (·.handed)).filterMap HandedOver.only? =
      o.okSends.filterMap (·.carried?) := by
    rw [List.filterMap_map]
    exact List.filterMap_congr fun r _ => r.carried?_eq.symm
  rw [hreceived, ← h.numbers.carried]
  have hprefix := h.delivers.delivered.filterMap HandedOver.only?
  rw [hsends] at hprefix
  exact hprefix.sublist.trans (List.filter_sublist.filterMap _)

/-- **Delivery in order, without loss.**  Take a sender with any capacities over any bounded channel
of any depth, and any interleaving of sends, looks for a packet, and either side leaving.

* What was received are the packets of the first of the successful sends, one each and in their order.
* At most `max depth 1` packets wait.
* As long as there is a receiver, it finds nothing exactly when it has received the packets of all
  successful sends; and it is told that nobody sends any more if besides the sender has left.
* A send whose message can be built is refused for a full queue exactly if there is a receiver and
  as many more sends were successful than packets received as the queue holds; it is told that
  nobody receives exactly if the receiver has left; and otherwise it succeeds.
* A reply that the queue refuses has used up its number; so the numbers of the replies that were
  received are some of the numbers from the first one of the store on, in their order. -/
theorem delivers_in_order (ch : Channel κ) (config : WriterConfig) (depth : ℕ) (start : Store)
    (steps : List Step) :
    let o := after ch config depth start steps
    o.received.map ([·]) <+: o.okSends.map (·.handed) ∧
    (o.seen ch).packets.length ≤ max depth 1 ∧
    (.dropReceiver ∉ steps →
      ((ch.tryReceive o.queue).1 = .empty ↔
        o.received.map ([·]) = o.okSends.map (·.handed) ∧ .dropSender ∉ steps) ∧
      ((ch.tryReceive o.queue).1 = .disconnected ↔
        o.received.map ([·]) = o.okSends.map (·.handed) ∧ .dropSender ∈ steps)) ∧
    (∀ m data nextHop, validate data nextHop = .ok () → ¬ RouteMessage.TooLarge config m data →
      let answer := (o.sent ch m data nextHop).answer
      (answer = .error (.transport .queueFull) ↔
        .dropReceiver ∉ steps ∧ o.okSends.length = o.received.length + max depth 1) ∧
      (answer = .error (.transport .closed) ↔ .dropReceiver ∈ steps) ∧
      ((∃ length, answer = .ok length) ↔
        .dropReceiver ∉ steps ∧ o.okSends.length < o.received.length + max depth 1)) ∧
    (∀ r ∈ o.sends, r.message = .reply →
      ∀ cause, r.answer = some (.error (.transport cause)) → r.after = r.before.advance) ∧
    (o.received.filterMap (·.targetSeqNum?)).Sublist
      ((List.range o.sentReplies.length).map (SeqNum.next^[·] start.value)) := by
  intro o
  have hreached : o.Reached ch config depth start steps := reached_after ch config depth start steps
  have hnumbers := hreached.received_sublist
  obtain ⟨hdelivers, hspent, hreceiver, hsender⟩ := hreached
  refine ⟨hdelivers.delivered, ?_, fun hthere => ?_, fun m data nextHop hvalid hfits => ?_, ?_,
    hnumbers⟩
  · rw [← hdelivers.capacity]
    exact hdelivers.room
  · obtain ⟨hempty, hdisconnected⟩ := ch.receive_none_iff o.queue
    have hgone : (o.seen ch).hasSender = false ↔ .dropSender ∈ steps := by
      rw [← Bool.not_eq_true, hsender, not_not]
    rw [hdelivers.drained_iff (hreceiver.2 hthere), ← hsender, ← hgone]
    exact ⟨hempty, hdisconnected⟩
  · rcases hdelivers.answer_cases hvalid hfits with
      ⟨hthere, hanswer⟩ | ⟨hthere, hcount, hanswer⟩ | ⟨hthere, hcount, hanswer⟩
    · have hgone : .dropReceiver ∈ steps := by
        rwa [← Bool.not_eq_true, hreceiver, not_not] at hthere
      simp [hanswer, hgone]
    · simp [hanswer, hreceiver.1 hthere, hcount]
    · simp [hanswer, hreceiver.1 hthere, hcount, Nat.ne_of_lt hcount]
  · intro r hr hreply cause hrefused
    refine hspent.spent r hr ?_
    rw [SendRecord.isSentReply, hreply, hrefused]

/-- A queue of depth zero holds one packet, and has no room for the next. -/
theorem delivers_in_order_at_depth_zero :
    let o := after Queue.channel {} 0 ⟨1⟩ [.send .reply sampleData .localhost]
    o.queue.packets.length ≤ 1 ∧
      (o.sent Queue.channel .request sampleData .localhost).answer =
        .error (.transport .queueFull) := by
  intro o
  have hfits (m : RouteMessage) : ¬ m.TooLarge {} sampleData := by
    unfold RouteMessage.TooLarge
    cases m <;> decide
  -- the first send finds room
  obtain ⟨-, -, -, hfirst, -⟩ := delivers_in_order Queue.channel {} 0 ⟨1⟩ []
  obtain ⟨-, -, htaken⟩ := hfirst .reply sampleData .localhost rfl (hfits .reply)
  obtain ⟨length, hanswer⟩ := htaken.2 ⟨List.not_mem_nil, Nat.zero_lt_one⟩
  have hok : (record Queue.channel (after Queue.channel {} 0 ⟨1⟩ []) .reply sampleData
      .localhost).isOk = true := by
    simp only [record, SendRecord.isOk, hanswer]
  have hone : o.okSends.length = 1 := by
    show (send Queue.channel (after Queue.channel {} 0 ⟨1⟩ []) .reply sampleData
      .localhost).okSends.length = 1
    rw [okSends_send, if_pos hok]
    rfl
  obtain ⟨-, hroom, -, hsecond, -⟩ :=
    delivers_in_order Queue.channel {} 0 ⟨1⟩ [.send .reply sampleData .localhost]
  obtain ⟨hfull, -⟩ := hsecond .request sampleData .localhost rfl (hfits .request)
  exact ⟨hroom, hfull.2 ⟨by simp, hone⟩⟩

end Outlet

end RouteDiscovery
