/-
# Content of route messages

Both messages carry the hop limit and nothing else in their header, and name the originator and
the target, in this order.

| message | on the originator       | on the target           |
|---------|-------------------------|-------------------------|
| request | sequence number, metric | nothing                 |
| reply   | sequence number         | sequence number, metric |

The target's sequence number in a reply is taken from the node's store while the reply is built
(`Numbering`).  When the reply is in the packet the number is spent; when the reply could not be
built, the number is handed back.
-/
import RouteDiscovery.Route.Message
import RouteDiscovery.SeqNum.Store
import RouteDiscovery.Wire.Writer

namespace RouteDiscovery

open Log Wire

/-- The numbers of replies: the node's store, and the number taken for the reply at hand. -/
structure Numbering where
  store : Store
  reserved : Option SeqNum := none
deriving DecidableEq, Repr

namespace Numbering

/-- Carries out a step on the store. -/
def onStore {α : Type} (n : Numbering) (f : Store → Outcome Store α) : Outcome Numbering α :=
  let o := f n.store
  { answer := o.answer, state := { n with store := o.state }, events := o.events }

/-- Takes a number for a reply and remembers it. -/
def take (n : Numbering) : Outcome Numbering SeqNum :=
  let o := n.store.reserve
  { answer := o.answer, state := { store := o.state, reserved := some o.answer },
    events := o.events }

/-- The reply is in the packet: its number is spent. -/
def commit (n : Numbering) : Outcome Numbering Unit :=
  match n.reserved with
  | none => { answer := (), state := n }
  | some issued =>
    { answer := (), state := { n with reserved := none },
      events := [{ level := .debug, message := "reply sequence number issued",
                   fields := [("issued", .nat issued.toNat)] }] }

/-- The reply could not be built: its number is handed back. -/
def handBack (n : Numbering) : Outcome Numbering Unit :=
  match n.reserved with
  | none => { answer := (), state := n }
  | some issued =>
    let o := n.store.release issued
    { answer := (), state := { store := o.state, reserved := none },
      events := o.events ++
        [{ level := .debug, message := "reply sequence number released",
           fields := [("issued", .nat issued.toNat), ("rolled_back", .bool o.answer)] }] }

end Numbering

namespace RouteMessage

def headerScript {σ : Type} (data : RouteData) : CallbackScript σ Unit := do
  CallbackScript.tell (.setFlags .hopLimit)
  CallbackScript.tell (.setHopLimit data.hopLimit)

/-- Adds an address TLV that must be the only one of its type on its address. -/
def addTlvOnce {σ : Type} (index : Nat) (type : TlvType) (value : List UInt8) :
    CallbackScript σ Unit :=
  CallbackScript.addTlv index type value false

/-- The addresses and TLVs of a request. -/
def requestScript {σ : Type} (data : RouteData) : CallbackScript σ Unit := do
  let originator ← CallbackScript.addAddress (.ofIpv6 data.originator.addr) true
  let _ ← CallbackScript.addAddress (.ofIpv6 data.target.addr) true
  addTlvOnce originator .originatorSeqNum (wordBytes data.originator.seqNum)
  addTlvOnce originator .metric [data.originator.metric]

/-- The addresses and TLVs of a reply. -/
def replyScript (data : RouteData) : CallbackScript Numbering Unit := do
  let number ← ExceptT.lift (Script.step Numbering.take)
  let originator ← CallbackScript.addAddress (.ofIpv6 data.originator.addr) true
  let target ← CallbackScript.addAddress (.ofIpv6 data.target.addr) true
  addTlvOnce originator .originatorSeqNum (wordBytes data.originator.seqNum)
  addTlvOnce target .targetSeqNum (wordBytes number)
  addTlvOnce target .metric [data.target.metric]

/-- What fills in a message with the given data. -/
def content (data : RouteData) : RouteMessage → ContentProvider Numbering
  | request =>
    { type := request.type, addHeader := headerScript data, addAddresses := requestScript data }
  | reply =>
    { type := reply.type, addHeader := headerScript data, addAddresses := replyScript data
      finish := Numbering.commit, abort := Numbering.handBack }

end RouteMessage

end RouteDiscovery
