/-
# Route messages

Route discovery has two messages: the request that a node sends to find a route, and the reply
of the node that was looked for.  Each has a message type and a table of the address TLVs that
it may carry.
-/
import RouteDiscovery.Route.Data
import RouteDiscovery.Wire.Draft

namespace RouteDiscovery

open Wire

/-- The messages of route discovery. -/
inductive RouteMessage where
  | request
  | reply
deriving DecidableEq, Repr, Inhabited

def originatorSeqNumKind : UInt8 := 0

def targetSeqNumKind : UInt8 := 1

def metricKind : UInt8 := 3

/-- The metric that counts hops; the type extension of metric TLVs. -/
def hopCountMetric : UInt8 := 3

/-- The hop limit of the replies that a node makes. -/
def maxHopCount : UInt8 := 250

/-- The width of node addresses. -/
def nodeAddressLength : Nat := 16

/-- The port that routers listen on. -/
def routerPort : UInt16 := 269

/-- All routers on a link. -/
def linkLocalRouters : Ipv6 := .ofWords 0xff02 0 0 0 0 0 0 0x6d

namespace Wire.TlvType

def originatorSeqNum : TlvType := { kind := originatorSeqNumKind }

def targetSeqNum : TlvType := { kind := targetSeqNumKind }

def metric : TlvType := { kind := metricKind, ext := some hopCountMetric }

end Wire.TlvType

namespace RouteMessage

/-- Both messages in the order in which they are registered. -/
def all : List RouteMessage := [request, reply]

def type : RouteMessage → MsgType
  | request => ⟨10⟩
  | reply => ⟨11⟩

/-- The address TLVs that the message may carry. -/
def table : RouteMessage → List TlvType
  | request => [TlvType.originatorSeqNum, TlvType.metric]
  | reply => [TlvType.originatorSeqNum, TlvType.targetSeqNum, TlvType.metric]

/-- The hop limit of a message with the given data: a reply always starts with the largest. -/
def hopLimit : RouteMessage → RouteData → UInt8
  | request, data => data.hopLimit
  | reply, _ => maxHopCount

end RouteMessage

end RouteDiscovery
