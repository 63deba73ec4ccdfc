/-
# The node's queue

A channel that is its own view: a list of packets, of which the oldest is received first.
-/
import RouteDiscovery.Node.Channel

namespace RouteDiscovery

namespace Queue

/-- Puts a packet at the end, unless there is no receiver or no room; the first is noticed first. -/
def trySend (q : Queue) (p : QueuedPacket) : Except Refusal Unit × Queue :=
  if !q.hasReceiver then (.error .closed, q)
  else if q.packets.length < q.capacity then (.ok (), { q with packets := q.packets ++ [p] })
  else (.error .full, q)

/-- Nothing is taken once nobody receives. -/
theorem trySend_of_closed {q : Queue} (h : q.hasReceiver = false) (p : QueuedPacket) :
    q.trySend p = (.error .closed, q) := by
  unfold trySend
  rw [h]
  rfl

/-- A packet is taken as long as there is room and somebody receives. -/
theorem trySend_of_lt {q : Queue} (h : q.hasReceiver = true) (hq : q.packets.length < q.capacity)
    (p : QueuedPacket) : q.trySend p = (.ok (), { q with packets := q.packets ++ [p] }) := by
  unfold trySend
  rw [h, if_pos hq]
  rfl

/-- A full queue takes nothing. -/
theorem trySend_of_full {q : Queue} (h : q.hasReceiver = true) (hq : q.capacity ≤ q.packets.length)
    (p : QueuedPacket) : q.trySend p = (.error .full, q) := by
  unfold trySend
  rw [h, if_neg (Nat.not_lt.2 hq)]
  rfl

/-- Takes the oldest packet without waiting. -/
def receive (q : Queue) : Received × Queue :=
  match q.packets with
  | p :: rest => (.packet p, { q with packets := rest })
  | [] => (if q.hasSender then .empty else .disconnected, q)

theorem receive_of_cons {q : Queue} {p : QueuedPacket} {rest : List QueuedPacket}
    (h : q.packets = p :: rest) : q.receive = (.packet p, { q with packets := rest }) := by
  unfold receive
  rw [h]

theorem receive_of_nil {q : Queue} (h : q.packets = []) :
    q.receive = (if q.hasSender then .empty else .disconnected, q) := by
  unfold receive
  rw [h]

/-- The queue after the receiver left; the waiting packets are lost. -/
def dropReceiver (q : Queue) : Queue := { q with hasReceiver := false, packets := [] }

def dropSender (q : Queue) : Queue := { q with hasSender := false }

/-- The queue as a channel. -/
def channel : Channel Queue where
  opened capacity := { capacity }
  trySend := trySend
  tryReceive := receive
  dropReceiver := dropReceiver
  dropSender := dropSender
  view q := q
  view_opened _ := rfl
  trySend_closed h p := by
    rw [trySend_of_closed h]
    exact ⟨rfl, rfl⟩
  trySend_full h hq p := by
    rw [trySend_of_full h hq]
    exact ⟨rfl, rfl⟩
  trySend_room h hq p := by
    rw [trySend_of_lt h hq]
    exact ⟨rfl, rfl⟩
  tryReceive_packet h := by
    rw [receive_of_cons h]
    exact ⟨rfl, rfl⟩
  tryReceive_nothing h := by
    rw [receive_of_nil h]
    exact ⟨rfl, rfl⟩
  view_dropReceiver _ := rfl
  view_dropSender _ := rfl

/-- A queue of a depth. -/
def ofDepth (depth : Nat) : Queue := channel.ofDepth depth

/-- Puts a packet at the end. -/
def push (q : Queue) (p : QueuedPacket) : Except TransportError Unit × Queue := channel.push q p

/-- The queue as a transport. -/
def transport : Transport Queue := channel.transport

end Queue

end RouteDiscovery
