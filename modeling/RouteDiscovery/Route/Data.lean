/-
# Route data

What a route request or a route reply says: the node that looks for a route, the node that is
looked for, and how far the message may go.
-/
import RouteDiscovery.Address.Ipv6
import RouteDiscovery.SeqNum.Basic

namespace RouteDiscovery

/-- What is said of a node. -/
structure NodeData where
  addr : Ipv6
  seqNum : SeqNum
  /-- The cost of the route to it. -/
  metric : UInt8
deriving DecidableEq, Repr, Inhabited

/-- What a route request or reply says. -/
structure RouteData where
  /-- The node that looks for a route. -/
  originator : NodeData
  /-- The node that is looked for. -/
  target : NodeData
  /-- How far the message may still go. -/
  hopLimit : UInt8
deriving DecidableEq, Repr, Inhabited

/-- A node of which nothing is known. -/
def NodeData.empty : NodeData := ⟨.unspecified, SeqNum.unknown, 0⟩

/-- The data before the first message. -/
def RouteData.empty : RouteData := ⟨.empty, .empty, 0⟩

end RouteDiscovery
