/-
# Records of route discovery

Reading (`read?`) and writing (`record`) of addresses, route data and the counters of a sender.
-/
import RouteDiscovery.Record.Value
import RouteDiscovery.Route.Sender

namespace RouteDiscovery

open Record

variable {v : Type} [Source v]

namespace Ipv6

/-- The address that a value writes as text. -/
def read? (value : v) : Option Ipv6 := (Source.text? value).bind ofString?

def record (a : Ipv6) : Value := .text a.text

end Ipv6

namespace NodeData

/-- The node data that a value writes. -/
def read? (value : v) : Option NodeData := do
  match ← fields? ["addr", "seqnum", "metric"] value with
  | [addr, seqNum, metric] =>
    return { addr := ← required Ipv6.read? addr
             seqNum := ← required word16? seqNum
             metric := ← required byte? metric }
  | _ => none

def record (d : NodeData) : Value :=
  .object [("addr", d.addr.record), ("seqnum", .nat d.seqNum.toNat),
           ("metric", .nat d.metric.toNat)]

end NodeData

namespace RouteData

/-- The route data that a value writes. -/
def read? (value : v) : Option RouteData := do
  match ← fields? ["orig_node", "targ_node", "hoplimit"] value with
  | [originator, target, hopLimit] =>
    return { originator := ← required NodeData.read? originator
             target := ← required NodeData.read? target
             hopLimit := ← required byte? hopLimit }
  | _ => none

def record (d : RouteData) : Value :=
  .object [("orig_node", d.originator.record), ("targ_node", d.target.record),
           ("hoplimit", .nat d.hopLimit.toNat)]

end RouteData

namespace SendCounts

def names : List String :=
  ["rreq_sent", "rrep_sent", "bytes_sent", "encode_failures", "transport_failures"]

/-- The counters that a value writes. -/
def read? (value : v) : Option SendCounts := do
  match ← fields? names value with
  | [requests, replies, bytes, encodeFailures, transportFailures] =>
    return { requests := ← required word64? requests
             replies := ← required word64? replies
             bytes := ← required word64? bytes
             encodeFailures := ← required word64? encodeFailures
             transportFailures := ← required word64? transportFailures }
  | _ => none

def record (c : SendCounts) : Value :=
  .object (names.zip ([c.requests, c.replies, c.bytes, c.encodeFailures, c.transportFailures].map
    fun n => .nat n.toNat))

end SendCounts

end RouteDiscovery
