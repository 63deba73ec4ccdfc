/-
# The node's own requests

A node that asks for a route says how new its own number is.  It reads the number from the store
that its replies take their numbers from, without taking it (`NodeConfig.requestRoute`), while other
senders may work on the same store.

Here this is followed through runs of requests and sends (`Site.actAll`).  A request leaves the store
(`Site.store_ask`), so it carries the number that the next reply will carry; and this number is newer
than those of the replies before it, as far as the serial order reaches back
(`Site.own_requests_fresh`).
-/
import RouteDiscovery.Node.Request
import RouteDiscovery.Proofs.Route.Erasure
import RouteDiscovery.Proofs.Route.NamedNodes
import RouteDiscovery.Proofs.SeqNum.SerialOrder
import RouteDiscovery.Proofs.Wire.Checked

namespace RouteDiscovery

open Wire

namespace RouteMessage

/-- A reader finds the hop limit of a message. -/
lemma hopLimit_written (m : RouteMessage) (data : RouteData) (number : SeqNum) :
    (m.written data number).hopLimit = some (m.hopLimit data) := by
  obtain ⟨-, -, hheader, -⟩ := Draft.withTlvs_frame
    (m.namedDraft (m.loaded data) 0 (nodes (m.loaded data))) (m.tlvs (m.loaded data) number)
  show (m.draft (m.loaded data) number 0).header.carried .hopLimit _ = _
  rw [draft, hheader]
  exact if_pos contains_hopLimit.2.1

end RouteMessage

/-! ## Sends with all steps in range -/

namespace RouteSender

variable {τ : Type} {config : WriterConfig} {s : RouteSender τ}

/-- What a sender makes of a message that was built, or could not be. -/
def settle (s : RouteSender τ) (t : Transport τ) (m : RouteMessage)
    (made : MessageWriter.Created Numbering) : Sent τ :=
  let s := { s with writer := made.writer, reserved := made.context.reserved }
  match made.result with
  | .error e =>
    { answer := .error (.encode e)
      state := ({ s with writer := s.writer.discard, counts := s.counts.encodeFailed },
                made.context.store)
      events := made.events ++ [encodeFailedEvent m e] }
  | .ok () =>
    let delivered := s.deliver t made.context.store m
    { delivered with events := made.events ++ delivered.events }

/-- A send that has no result if a step in the making of its message is out of range. -/
def checkedSend (s : RouteSender τ) (t : Transport τ) (store : Store) (m : RouteMessage)
    (data : RouteData) (nextHop : Ipv6) : Option (Sent τ) :=
  match validate data nextHop with
  | .error e => some { answer := .error e, state := (s, store) }
  | .ok () =>
    let s := { s with delivery := deliveryOf m data nextHop }
    (Checked.create s.writer (m.content s.delivery.data) { store, reserved := s.reserved }).map
      fun made =>
        let sent := s.settle t m made
        { sent with events := sendEvent m data nextHop :: sent.events }

/-- An idle sender sends without a step out of range. -/
lemma Idle.checkedSend_eq (hs : s.Idle config) (t : Transport τ) (store : Store) (m : RouteMessage)
    (data : RouteData) (nextHop : Ipv6) :
    s.checkedSend t store m data nextHop = some (s.send t store m data nextHop) := by
  have hwidth : ∀ width, s.writer.width? m.type = some width → 0 < width := by
    intro width h
    rw [hs.writer, RouteMessage.width?_idleWriter] at h
    rw [← Option.some.inj h]
    decide
  have hpacket : Checked.Fits s.writer.packet := by
    rw [hs.writer]
    exact Nat.zero_le _
  cases hvalid : validate data nextHop with
  | error e => simp only [checkedSend, RouteSender.send, hvalid]
  | ok done =>
    have hchecked := s.writer.create_checked (m.content (deliveryOf m data nextHop).data)
      { store, reserved := s.reserved } (by rwa [RouteMessage.type_content]) hpacket
    simp only [checkedSend, RouteSender.send, hvalid, hchecked]
    rfl

end RouteSender

namespace NodeConfig

variable {τ : Type}

/-- A request that has no result if a step in the making of its message is out of range. -/
def checkedRequest (c : NodeConfig) (t : Transport τ) (store : Store) (s : RouteSender τ)
    (target : Ipv6) : Option (RouteSender.Sent τ) :=
  (s.checkedSend t store .request (c.requestData store target) linkLocalRouters).map fun sent =>
    { sent with events := sent.events ++ [requestEvent target sent.answer] }

/-- The calls of the transport in a request. -/
def requested (c : NodeConfig) (t : Transport τ) (store : Store) (s : RouteSender τ)
    (target : Ipv6) : List HandedOver :=
  (c.requestRoute t.logged store s.logging target).state.1.transport.2

/-- The message asks for a route to a node, and tells the number and no distance of the node that
asks. -/
structure Asks (c : NodeConfig) (number : SeqNum) (target : Ipv6) (found : Message) : Prop where
  type : found.type = RouteMessage.request.type
  hopLimit : found.hopLimit = some c.hopLimit
  /-- The node is the first address. -/
  originator : found.addresses.head? = some c.nodeAddr.octets
  target : target.octets ∈ found.addresses
  /-- All that is said is said of the first address. -/
  tlvs : found.tlvs = [⟨.originatorSeqNum, 0, wordBytes number⟩, ⟨.metric, 0, [0]⟩]

lemma asks_written (c : NodeConfig) (store : Store) (target : Ipv6) (number : SeqNum) :
    c.Asks store.value target
      (RouteMessage.request.written (c.requestData store target) number) := by
  have haddresses := RouteMessage.request.addresses_written (c.requestData store target) number
  refine ⟨rfl, RouteMessage.request.hopLimit_written _ _, ?_, ?_,
    RouteMessage.request.tlvs_written _ _⟩
  · rw [haddresses]
    unfold RouteMessage.nodes
    split <;> rfl
  · rw [haddresses]
    unfold RouteMessage.nodes
    split
    · next hself =>
      rw [hself]
      exact List.mem_singleton_self _
    · exact List.mem_cons_of_mem _ (List.mem_singleton_self _)

variable {config : WriterConfig} {s : RouteSender τ} {store : Store}

/-- An idle sender makes a request without a step out of range. -/
lemma checkedRequest_eq (hs : s.Idle config) (c : NodeConfig) (t : Transport τ) (store : Store)
    (target : Ipv6) : c.checkedRequest t store s target = some (c.requestRoute t store s target) := by
  rw [checkedRequest, hs.checkedSend_eq]
  rfl

/-- A request that was encoded is handed over once, for all routers. -/
lemma requested_of_encoded (hs : s.Idle config) (c : NodeConfig) (t : Transport τ) (store : Store)
    (target : Ipv6)
    (hencoded : RouteSender.isFailure (c.requestRoute t store s target).answer = false) :
    ∃ packet found, c.requested t store s target = [(packet, linkLocalRouters)] ∧
      readPacket packet = some [found] ∧ c.Asks store.value target found := by
  let data := c.requestData store target
  have hanswer : (c.requestRoute t store s target).answer =
    (s.send t store .request data linkLocalRouters).answer := rfl
  rw [hanswer] at hencoded
  cases hvalid : RouteSender.validate data linkLocalRouters with
  | error e =>
    obtain ⟨role, rfl⟩ := RouteSender.exists_of_validate hvalid
    rw [RouteSender.send_invalid hvalid] at hencoded
    exact absurd hencoded (by simp [RouteSender.isFailure])
  | ok done =>
    have hbuilt : ∀ cause,
        (s.send t store .request data linkLocalRouters).answer ≠ .error (.encode cause) := by
      intro cause hcause
      rw [hcause] at hencoded
      exact absurd hencoded (by simp [RouteSender.isFailure])
    obtain ⟨hhanded, hread⟩ := hs.handed_of_built t store .request hvalid hbuilt
    exact ⟨_, _, hhanded, hread, c.asks_written store target store.value⟩

end NodeConfig

/-! ## Runs -/

/-- A step of a node: it asks for a route, or one of its senders is asked for a send. -/
inductive NodeStep (τ : Type) where
  | ask (config : NodeConfig) (index : ℕ) (transport : Transport τ) (target : Ipv6)
  | send (call : SendCall τ)

namespace Site

variable {τ : Type} {site : Site τ}

/-- The site after the node has asked for a route over the sender at an index. -/
def ask (site : Site τ) (config : NodeConfig) (index : ℕ) (t : Transport τ) (target : Ipv6) :
    Site τ :=
  match site.senders[index]? with
  | none => site
  | some s =>
    let sent := config.requestRoute t site.store s target
    { store := sent.state.2, senders := site.senders.set index sent.state.1 }

/-- The site after a step. -/
def act (site : Site τ) : NodeStep τ → Site τ
  | .ask config index t target => site.ask config index t target
  | .send call => site.perform call

/-- The site after a run. -/
def actAll (site : Site τ) (steps : List (NodeStep τ)) : Site τ := steps.foldl act site

/-- The send that asking for a route comes to. -/
def requestCall (site : Site τ) (config : NodeConfig) (index : ℕ) (t : Transport τ)
    (target : Ipv6) : SendCall τ :=
  ⟨index, t, .request, config.requestData site.store target, linkLocalRouters⟩

/-- The sends that a run comes to. -/
def calls : Site τ → List (NodeStep τ) → List (SendCall τ)
  | _, [] => []
  | site, .ask config index t target :: steps =>
    site.requestCall config index t target :: (site.ask config index t target).calls steps
  | site, .send call :: steps => call :: (site.perform call).calls steps

/-- The replies of a run that were encoded. -/
def encodedReplies (site : Site τ) (steps : List (NodeStep τ)) : List SendRecord :=
  site.sentReplies (site.calls steps)

lemma ask_eq (site : Site τ) (config : NodeConfig) (index : ℕ) (t : Transport τ) (target : Ipv6) :
    site.ask config index t target = site.perform (site.requestCall config index t target) := by
  cases hsender : site.senders[index]? with
  | none => simp only [ask, perform, Site.send, requestCall, hsender]
  | some s =>
    simp only [ask, perform, Site.send, requestCall, hsender]
    rfl

/-- A run is a run of sends. -/
lemma performAll_calls (site : Site τ) (steps : List (NodeStep τ)) :
    site.performAll (site.calls steps) = site.actAll steps := by
  induction steps generalizing site with
  | nil => rfl
  | cons step steps ih =>
    cases step with
    | send call => exact ih (site.perform call)
    | ask config index t target =>
      have hrest := ih (site.ask config index t target)
      rw [calls, actAll, List.foldl_cons, act, performAll, List.foldl_cons, ← ask_eq]
      exact hrest

/-- Asking for a route leaves the store. -/
lemma AllIdle.store_ask (h : site.AllIdle) (config : NodeConfig) (index : ℕ) (t : Transport τ)
    (target : Ipv6) : (site.ask config index t target).store = site.store := by
  rw [ask_eq]
  rcases h.record_cases (site.requestCall config index t target) with ⟨hreply, -, -⟩ | ⟨-, hsame⟩
  · -- a request is no reply
    exact absurd hreply Bool.false_ne_true
  · exact hsame

lemma AllIdle.actAll (h : site.AllIdle) (steps : List (NodeStep τ)) :
    (site.actAll steps).AllIdle := by
  induction steps generalizing site with
  | nil => exact h
  | cons step steps ih =>
    cases step with
    | send call => exact ih (h.perform call)
    | ask config index t target =>
      refine ih ?_
      rw [act, ask_eq]
      exact h.perform _

/-- The encoded replies of a run carry the numbers that follow one another from the number of the
store, and the store is left with the next one. -/
lemma AllIdle.carried_encodedReplies (h : site.AllIdle) (steps : List (NodeStep τ)) :
    (∀ i r, (site.encodedReplies steps)[i]? = some r →
        r.carried? = some (SeqNum.next^[i] site.store.value)) ∧
      (site.actAll steps).store.value =
        SeqNum.next^[(site.encodedReplies steps).length] site.store.value := by
  obtain ⟨hcarried, hvalue⟩ := h.carried_sentReplies (site.calls steps)
  rw [performAll_calls] at hvalue
  refine ⟨fun i r hr => ?_, hvalue⟩
  have hi : i < (site.encodedReplies steps).length := (List.getElem?_eq_some_iff.1 hr).1
  have hmap := congrArg (·[i]?) hcarried
  simp only [List.getElem?_map] at hmap
  rw [encodedReplies] at hr hi
  rw [hr, List.getElem?_range hi] at hmap
  exact Option.some.inj hmap

/-- The number of the store is newer than those of the last replies. -/
lemma AllIdle.isNewer_last (h : site.AllIdle) (hknown : site.store.value ≠ SeqNum.unknown)
    (steps : List (NodeStep τ)) :
    let replies := site.encodedReplies steps
    let current := (site.actAll steps).store.value
    ∀ r ∈ replies.drop (replies.length - 32766), ∃ number, r.carried? = some number ∧
      SeqNum.isNewer current number = true ∧ SeqNum.isNewer number current = false := by
  intro replies current r hr
  obtain ⟨hcarried, hvalue⟩ := h.carried_encodedReplies steps
  obtain ⟨i, hi⟩ := List.mem_iff_getElem?.1 hr
  rw [List.getElem?_drop] at hi
  have hlt := (List.getElem?_eq_some_iff.1 hi).1
  -- the store has gone on since this reply, but not too far
  obtain ⟨k, hk⟩ : ∃ k, replies.length = k + (replies.length - 32766 + i) :=
    ⟨replies.length - (replies.length - 32766 + i), by omega⟩
  have hcurrent : current =
      SeqNum.next^[k] (SeqNum.next^[replies.length - 32766 + i] site.store.value) := by
    rw [← Function.iterate_add_apply, ← hk]
    exact hvalue
  have hnumber := SeqNum.iterate_next_ne_unknown hknown (replies.length - 32766 + i)
  refine ⟨_, hcarried _ r hi, ?_⟩
  rw [hcurrent]
  exact SeqNum.isNewer_iterate_next hnumber (by omega) (by omega)

/-- **The node's own requests are never stale.**  Take any run of requests and sends of any senders
that share a store, whatever their capacities and transports, and let the node then ask for a route.

* The number of the store is known and newer than those of the last 32766 replies that were encoded,
  also if it started again in between; and the next reply that is encoded after the request carries
  it.
* The request leaves the store, and no step in it is out of range.
* A request that is encoded is handed over in one packet for all routers on the link, with one
  message, which has the hop limit of the configuration, and names the node with this number and
  metric zero. -/
theorem own_requests_fresh (start : SeqNum) (senders : List (WriterConfig × τ))
    (steps : List (NodeStep τ)) (config : NodeConfig) (index : ℕ) (t : Transport τ)
    (target : Ipv6) :
    let opened := (openAll (Store.startingAt start) senders).state
    let replies := opened.encodedReplies steps
    let site := opened.actAll steps
    let current := site.store.value
    current ≠ SeqNum.unknown ∧
    (∀ r ∈ replies.drop (replies.length - 32766), ∃ number, r.carried? = some number ∧
      SeqNum.isNewer current number = true ∧ SeqNum.isNewer number current = false) ∧
    (∀ later r, ((site.ask config index t target).encodedReplies later).head? = some r →
      r.carried? = some current) ∧
    ∀ s, site.senders[index]? = some s →
      (config.requestRoute t site.store s target).state.2 = site.store ∧
      config.checkedRequest t site.store s target =
        some (config.requestRoute t site.store s target) ∧
      (RouteSender.isFailure (config.requestRoute t site.store s target).answer = false →
        ∃ packet found,
          config.requested t site.store s target = [(packet, linkLocalRouters)] ∧
          readPacket packet = some [found] ∧ config.Asks current target found) := by
  intro opened replies site current
  obtain ⟨hstore, hopened⟩ := allIdle_openAll (Store.startingAt start) senders
  have hidle : site.AllIdle := hopened.actAll steps
  have hknown : opened.store.value ≠ SeqNum.unknown := by
    rw [hstore]
    exact Store.value_startingAt_ne_unknown start
  have hask := hidle.store_ask config index t target
  refine ⟨?_, hopened.isNewer_last hknown steps, fun later r hr => ?_, fun s hs => ?_⟩
  · have hvalue : current = _ := (hopened.carried_encodedReplies steps).2
    rw [hvalue]
    exact SeqNum.iterate_next_ne_unknown hknown _
  · have hasked : (site.ask config index t target).AllIdle := by
      rw [ask_eq]
      exact hidle.perform _
    rw [List.head?_eq_getElem?] at hr
    rw [(hasked.carried_encodedReplies later).1 0 r hr, hask]
    rfl
  · obtain ⟨capacities, hsender⟩ := hidle s (List.mem_of_getElem? hs)
    refine ⟨?_, config.checkedRequest_eq hsender t site.store target,
      config.requested_of_encoded hsender t site.store target⟩
    simp only [ask, hs] at hask
    exact hask

/-- A node whose address is that of the sample's target. -/
def sampleNode : NodeConfig := { nodeAddr := RouteSender.sampleData.target.addr }

/-- The node has sent a reply with the last number, and asks for a route with the first one. -/
theorem own_request_after_the_wrap :
    let site := (openAll (Store.startingAt 65535) [({}, ())]).state.actAll
      [.send ⟨0, RouteSender.acceptAll, .reply, RouteSender.sampleData, .localhost⟩]
    ∃ s packet found, site.senders[0]? = some s ∧
      sampleNode.requested RouteSender.acceptAll site.store s .localhost =
        [(packet, linkLocalRouters)] ∧
      readPacket packet = some [found] ∧ sampleNode.Asks 1 .localhost found := by
  intro site
  have hfits : ∀ (m : RouteMessage) (data : RouteData), ¬ m.TooLarge {} data := by
    intro m data
    have hsize := m.messageSize_le data
    have harea : m.tlvArea ≤ 5 := by cases m <;> decide
    simp only [RouteMessage.TooLarge]
    omega
  have hnew : (RouteSender.new {} ()).state.Idle {} := (RouteSender.Reachable.new ()).idle
  have hreply : RouteSender.validate RouteSender.sampleData .localhost = .ok () := rfl
  obtain ⟨-, -, hstore, hidle⟩ :=
    hnew.send_of_fits RouteSender.acceptAll ⟨65535⟩ .reply hreply (hfits _ _)
  have hvalue : site.store = ⟨1⟩ := hstore
  obtain ⟨-, -, -, hrequest⟩ := own_requests_fresh 65535 [({}, ())]
    [.send ⟨0, RouteSender.acceptAll, .reply, RouteSender.sampleData, .localhost⟩]
    sampleNode 0 RouteSender.acceptAll .localhost
  obtain ⟨-, -, hencoded⟩ := hrequest _ rfl
  have hvalid : RouteSender.validate (sampleNode.requestData site.store .localhost)
    linkLocalRouters = .ok () := rfl
  obtain ⟨hanswer, -⟩ :=
    hidle.send_of_fits RouteSender.acceptAll site.store .request hvalid (hfits _ _)
  obtain ⟨packet, found, hhanded, hread, hasks⟩ :=
    hencoded (congrArg RouteSender.isFailure hanswer)
  have hone : site.store.value = 1 := congrArg Store.value hvalue
  exact ⟨_, packet, found, rfl, hhanded, hread, hone ▸ hasks⟩

end Site

end RouteDiscovery
