/-
# Node configuration

What a node is told: its address and port, the node to look for, how often and how far to ask,
and the capacities of its queue and its message writer.  Everything has a default.
-/
import RouteDiscovery.Record.Route
import RouteDiscovery.Record.Wire

namespace RouteDiscovery

open Record Wire

/-- The configuration of a node. -/
structure NodeConfig where
  /-- The address from which it asks for routes. -/
  nodeAddr : Ipv6 := .localhost
  port : UInt16 := routerPort
  /-- The interface of link-local destinations. -/
  interfaceIndex : UInt32 := 0
  requestTarget : Option Ipv6 := none
  hopLimit : UInt8 := maxHopCount
  requestIntervalSecs : UInt64 := 10
  queueDepth : Nat := 16
  writer : WriterConfig := {}
deriving DecidableEq, Repr

namespace NodeConfig

/-- The seconds between requests, at least one. -/
def requestInterval (c : NodeConfig) : UInt64 := max c.requestIntervalSecs 1

def names : List String :=
  ["node_addr", "port", "interface_index", "request_target", "hop_limit", "request_interval_secs",
   "queue_depth", "writer"]

variable {v : Type} [Source v]

/-- The configuration that a value writes; missing members have their defaults. -/
def read? (value : v) : Option NodeConfig := do
  match ← defaultedFields? names value with
  | [nodeAddr, port, interfaceIndex, requestTarget, hopLimit, requestIntervalSecs, queueDepth,
     writer] =>
    let base : NodeConfig := {}
    return {
      nodeAddr := ← defaulted base.nodeAddr Ipv6.read? nodeAddr
      port := ← defaulted base.port word16? port
      interfaceIndex := ← defaulted base.interfaceIndex word32? interfaceIndex
      requestTarget := ← optional Ipv6.read? requestTarget
      hopLimit := ← defaulted base.hopLimit byte? hopLimit
      requestIntervalSecs := ← defaulted base.requestIntervalSecs word64? requestIntervalSecs
      queueDepth := ← defaulted base.queueDepth size? queueDepth
      writer := ← defaulted base.writer WriterConfig.read? writer }
  | _ => none

def sectionName : String := "aodvv2"

/-- The configuration in a document: its section, if there is one. -/
def readDocument? (value : v) : Option (Option NodeConfig) := do
  match ← fields? [sectionName] value with
  | [node] => optional read? node
  | _ => none

def record (c : NodeConfig) : Value :=
  .object (names.zip [c.nodeAddr.record, .nat c.port.toNat, .nat c.interfaceIndex.toNat,
    .ofOption Ipv6.record c.requestTarget, .nat c.hopLimit.toNat,
    .nat c.requestIntervalSecs.toNat, .nat c.queueDepth, c.writer.record])

end NodeConfig

end RouteDiscovery
