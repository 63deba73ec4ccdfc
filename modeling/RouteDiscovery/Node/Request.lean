/-
# Route requests of the node

The node asks all routers on its links for a route.  A failure is only told in the log.
-/
import RouteDiscovery.Node.Config

namespace RouteDiscovery

open Log

namespace NodeConfig

/-- What the node's request for a route says. -/
def requestData (c : NodeConfig) (store : Store) (target : Ipv6) : RouteData :=
  { originator := ⟨c.nodeAddr, store.current, 0⟩
    target := ⟨target, SeqNum.unknown, 0⟩
    hopLimit := c.hopLimit }

/-- The event of a request. -/
def requestEvent (target : Ipv6) : Except SendError Nat → Event
  | .ok length =>
    { level := .debug, message := "route request queued",
      fields := [("len", .nat length), ("target", .shown target.text)] }
  | .error e =>
    Event.componentWarn "discovery"
      ("Route request for " ++ target.text ++ " failed: " ++ e.message)

/-- Asks all routers for a route to a node. -/
def requestRoute {τ : Type} (c : NodeConfig) (t : Transport τ) (store : Store)
    (s : RouteSender τ) (target : Ipv6) : RouteSender.Sent τ :=
  let sent := s.send t store .request (c.requestData store target) linkLocalRouters
  { sent with events := sent.events ++ [requestEvent target sent.answer] }

end NodeConfig

end RouteDiscovery
