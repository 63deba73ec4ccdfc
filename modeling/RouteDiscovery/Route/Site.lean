/-
# Sites

A site is a number of senders that share the node's sequence number.  Sends of any sender and
operations on the shared number happen one after another.
-/
import RouteDiscovery.Route.Sender

namespace RouteDiscovery

open Log Wire

/-- Senders that share the node's sequence number; `τ` is the state of their transports. -/
structure Site (τ : Type) where
  store : Store
  senders : List (RouteSender τ) := []

namespace Site

variable {τ : Type}

/-- Sends a message with the sender at an index; there is no answer without such a sender. -/
def send (site : Site τ) (t : Transport τ) (index : Nat) (m : RouteMessage) (data : RouteData)
    (nextHop : Ipv6) : Outcome (Site τ) (Option (Except SendError Nat)) :=
  match site.senders[index]? with
  | none => { answer := none, state := site }
  | some sender =>
    let sent := sender.send t site.store m data nextHop
    { answer := some sent.answer
      state := { store := sent.state.2, senders := site.senders.set index sent.state.1 }
      events := sent.events }

/-- Carries out an operation on the shared number. -/
def onStore (site : Site τ) (op : Store.Op) (times : Nat) : Outcome (Site τ) Store.Answer :=
  let o := site.store.applyTimes op times
  { answer := o.answer, state := { site with store := o.state }, events := o.events }

/-- The site in which a transport has changed by itself. -/
def onTransport (site : Site τ) (index : Nat) (f : τ → τ) : Site τ :=
  { site with senders := site.senders.modify index fun s => { s with transport := f s.transport } }

/-- Opens senders with the given capacities and transports. -/
def openAll (store : Store) : List (WriterConfig × τ) → Outcome (Site τ) Unit
  | [] => { answer := (), state := { store } }
  | (config, transport) :: rest =>
    let first := RouteSender.new config transport
    let later := openAll store rest
    { answer := ()
      state := { later.state with senders := first.state :: later.state.senders }
      events := first.events ++ later.events }

end Site

end RouteDiscovery
