/-
# Bounded channels

A sender and the network are joined by a bounded channel.  The sender never waits: the channel
refuses a packet when it is full or when nobody receives from it any more.

`Channel` is what is relied on of it.  Each of its operations has a law for each of its cases, which
says what is answered and what is then seen of the channel (`Queue`).  What the node adds is that a
channel has room for a packet at least (`Channel.ofDepth`), and that the channel is a transport
(`Channel.transport`).
-/
import RouteDiscovery.Route.Transport

namespace RouteDiscovery

/-- A packet that waits for the network. -/
structure QueuedPacket where
  bytes : List UInt8
  nextHop : Ipv6
deriving DecidableEq, Repr

/-- What is seen of a channel: a bounded queue of packets, and who is at its ends. -/
structure Queue where
  capacity : Nat
  /-- The waiting packets, the oldest first. -/
  packets : List QueuedPacket := []
  hasReceiver : Bool := true
  hasSender : Bool := true
deriving DecidableEq, Repr

/-- What receiving gives. -/
inductive Received where
  | packet (p : QueuedPacket)
  | empty
  /-- Nothing waits and nobody sends. -/
  | disconnected
deriving DecidableEq, Repr

/-- Why a channel did not take a packet. -/
inductive Refusal where
  | full
  | closed
deriving DecidableEq, Repr

/-- A refusal, as the error of a transport. -/
def Refusal.error : Refusal → TransportError
  | full => .queueFull
  | closed => .closed

/-- A bounded first-in first-out channel; `κ` is its state. -/
structure Channel (κ : Type) where
  /-- A new channel of a capacity. -/
  opened : Nat → κ
  /-- Puts a packet at the end without waiting. -/
  trySend : κ → QueuedPacket → Except Refusal Unit × κ
  /-- Takes the oldest packet without waiting. -/
  tryReceive : κ → Received × κ
  dropReceiver : κ → κ
  dropSender : κ → κ
  /-- What is seen of the channel. -/
  view : κ → Queue
  view_opened {capacity : Nat} (h : 0 < capacity) : view (opened capacity) = { capacity }
  /-- Nothing is taken once nobody receives. -/
  trySend_closed {q : κ} (h : (view q).hasReceiver = false) (p : QueuedPacket) :
    (trySend q p).1 = .error .closed ∧ view (trySend q p).2 = view q
  /-- A full channel takes nothing. -/
  trySend_full {q : κ} (h : (view q).hasReceiver = true)
    (hq : (view q).capacity ≤ (view q).packets.length) (p : QueuedPacket) :
    (trySend q p).1 = .error .full ∧ view (trySend q p).2 = view q
  /-- A packet is taken as long as there is room and somebody receives. -/
  trySend_room {q : κ} (h : (view q).hasReceiver = true)
    (hq : (view q).packets.length < (view q).capacity) (p : QueuedPacket) :
    (trySend q p).1 = .ok () ∧
      view (trySend q p).2 = { view q with packets := (view q).packets ++ [p] }
  tryReceive_packet {q : κ} {p : QueuedPacket} {rest : List QueuedPacket}
    (h : (view q).packets = p :: rest) :
    (tryReceive q).1 = .packet p ∧ view (tryReceive q).2 = { view q with packets := rest }
  /-- Where nothing waits, it counts whether somebody may still send. -/
  tryReceive_nothing {q : κ} (h : (view q).packets = []) :
    (tryReceive q).1 = (if (view q).hasSender then .empty else .disconnected) ∧
      view (tryReceive q).2 = view q
  /-- When the receiver leaves, the waiting packets are lost. -/
  view_dropReceiver (q : κ) :
    view (dropReceiver q) = { view q with hasReceiver := false, packets := [] }
  /-- What waits can still be received when the sender is gone. -/
  view_dropSender (q : κ) : view (dropSender q) = { view q with hasSender := false }

namespace Channel

variable {κ : Type}

/-- A channel of a depth; every channel holds at least one packet. -/
def ofDepth (c : Channel κ) (depth : Nat) : κ := c.opened (max depth 1)

/-- Puts a packet at the end; a refusal is an error of the transport. -/
def push (c : Channel κ) (q : κ) (p : QueuedPacket) : Except TransportError Unit × κ :=
  let (answer, q) := c.trySend q p
  (answer.mapError Refusal.error, q)

/-- The outcomes of a push: nobody receives, the channel is full, or the packet waits behind the
others. -/
theorem push_cases (c : Channel κ) (q : κ) (p : QueuedPacket) :
    ((c.view q).hasReceiver = false ∧
        (c.push q p).1 = .error .closed ∧ c.view (c.push q p).2 = c.view q) ∨
      ((c.view q).hasReceiver = true ∧ (c.view q).capacity ≤ (c.view q).packets.length ∧
        (c.push q p).1 = .error .queueFull ∧ c.view (c.push q p).2 = c.view q) ∨
      ((c.view q).hasReceiver = true ∧ (c.view q).packets.length < (c.view q).capacity ∧
        (c.push q p).1 = .ok () ∧
        c.view (c.push q p).2 = { c.view q with packets := (c.view q).packets ++ [p] }) := by
  cases h : (c.view q).hasReceiver with
  | false =>
    obtain ⟨hanswer, hview⟩ := c.trySend_closed h p
    exact .inl ⟨rfl, congrArg (Except.mapError Refusal.error) hanswer, hview⟩
  | true =>
    rcases Nat.lt_or_ge (c.view q).packets.length (c.view q).capacity with hlt | hle
    · obtain ⟨hanswer, hview⟩ := c.trySend_room h hlt p
      exact .inr (.inr ⟨rfl, hlt, congrArg (Except.mapError Refusal.error) hanswer, hview⟩)
    · obtain ⟨hanswer, hview⟩ := c.trySend_full h hle p
      exact .inr (.inl ⟨rfl, hle, congrArg (Except.mapError Refusal.error) hanswer, hview⟩)

/-- The channel as a transport. -/
def transport (c : Channel κ) : Transport κ :=
  ⟨fun bytes nextHop q => c.push q ⟨bytes, nextHop⟩⟩

end Channel

end RouteDiscovery
