/-
# Transports

A transport takes finished packets and says at once whether it took them.  `Delivery` is what
the writer keeps about the message at hand: its type, its data and where its packet goes.
-/
import RouteDiscovery.Route.Data
import RouteDiscovery.Wire.Writer

namespace RouteDiscovery

open Log Wire

/-- Why a transport did not take a packet. -/
inductive TransportError where
  | io (reason : String)
  | queueFull
  | closed
  | rejected (reason : String)
deriving DecidableEq, Repr, Inhabited

def TransportError.message : TransportError → String
  | io reason => "I/O error: " ++ reason
  | queueFull => "transmit queue full"
  | closed => "transport closed"
  | rejected reason => "packet rejected: " ++ reason

/-- A way to send packets; `τ` is its state. -/
structure Transport (τ : Type) where
  /-- Sends one packet to a node. -/
  send : List UInt8 → Ipv6 → τ → Except TransportError Unit × τ

/-- The message at hand and where it goes. -/
structure Delivery where
  type : Option MsgType := none
  data : RouteData := .empty
  nextHop : Ipv6 := .unspecified
deriving DecidableEq, Repr

namespace Delivery

/-- The delivery of a message. -/
def load (type : MsgType) (data : RouteData) (nextHop : Ipv6) : Delivery :=
  { type := some type, data, nextHop }

/-- The event of a packet that was not taken. -/
def failedEvent (d : Delivery) (e : TransportError) : Event :=
  { level := .warn, message := "packet send failed",
    fields := [("next_hop", .shown d.nextHop.text), ("error", .shown e.message)] }

/-- The events of sending the packet. -/
def events (d : Delivery) : Except TransportError Unit → List Event
  | .ok () => []
  | .error e => [d.failedEvent e]

/-- Sends packets of the delivery over a transport. -/
def target {τ : Type} (d : Delivery) (t : Transport τ) :
    MessageWriter.PacketTarget TransportError τ :=
  fun packet s =>
    let (answer, state) := t.send packet d.nextHop s
    { answer, state, events := d.events answer }

end Delivery

end RouteDiscovery
