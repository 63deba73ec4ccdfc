/-
# Senders that reuse their memory

The message writer of a sender gets its memory once and for all, and makes all messages of the sender
in it.  A `ReusingSender` is a sender with this memory.  It goes on with a message that was made, or
could not be made, as every sender does (`RouteSender.conclude`).
-/
import RouteDiscovery.Route.Sender
import RouteDiscovery.Wire.Reuse

namespace RouteDiscovery

open Log Wire

/-- A sender with the memory in which its writer makes messages. -/
structure ReusingSender (τ : Type) extends RouteSender τ where
  workspace : Workspace

namespace ReusingSender

variable {τ : Type}

/-- A new sender, in unused memory. -/
def new (config : WriterConfig) (transport : τ) : Outcome (ReusingSender τ) Unit :=
  let opened := RouteSender.new config transport
  { answer := (), state := { opened.state with workspace := .new config },
    events := opened.events }

/-- The writer with its memory. -/
def reusingWriter (s : ReusingSender τ) : ReusingWriter :=
  { s.writer with workspace := s.workspace }

/-- What a send gives: the sender and the node's store afterwards. -/
abbrev Sent (τ : Type) := Outcome (ReusingSender τ × Store) (Except SendError Nat)

/-- What a send gives that leaves the memory like this. -/
def withWorkspace (sent : RouteSender.Sent τ) (workspace : Workspace) : Sent τ :=
  { answer := sent.answer, state := ({ sent.state.1 with workspace }, sent.state.2),
    events := sent.events }

/-- Builds the message of the loaded delivery in the memory and hands its packet over. -/
def emit (s : ReusingSender τ) (t : Transport τ) (store : Store) (m : RouteMessage) : Sent τ :=
  let (made, workspace) :=
    s.reusingWriter.create (m.content s.delivery.data) { store, reserved := s.reserved }
  withWorkspace (s.toRouteSender.conclude t m made) workspace

/-- Sends a message to a node. -/
def send (s : ReusingSender τ) (t : Transport τ) (store : Store) (m : RouteMessage)
    (data : RouteData) (nextHop : Ipv6) : Sent τ :=
  match RouteSender.validate data nextHop with
  | .error e => { answer := .error e, state := (s, store) }
  | .ok () =>
    let sent := { s with delivery := RouteSender.deliveryOf m data nextHop }.emit t store m
    { sent with events := RouteSender.sendEvent m data nextHop :: sent.events }

end ReusingSender

end RouteDiscovery
