/-
# Network addresses

An address as it stands in a message: one to sixteen octets.
-/
import RouteDiscovery.Address.Ipv6
import RouteDiscovery.Wire.Error

namespace RouteDiscovery.Wire

/-- The most octets that an address has. -/
def maxAddressLength : Nat := 16

/-- An address of one to sixteen octets. -/
structure NetAddr where
  /-- The octets in network order. -/
  bytes : List UInt8
  length_pos : 0 < bytes.length
  length_le : bytes.length ≤ maxAddressLength
deriving DecidableEq, Repr

namespace NetAddr

def length (a : NetAddr) : Nat := a.bytes.length

/-- The address with the given octets.  The length in the error is at most 255. -/
def ofBytes (bytes : List UInt8) : Except WireError NetAddr :=
  if h : 0 < bytes.length ∧ bytes.length ≤ maxAddressLength then .ok ⟨bytes, h.1, h.2⟩
  else .error (.addressLength maxAddressLength (min bytes.length 255))

def ofIpv6 (x : Ipv6) : NetAddr :=
  ⟨x.octets, by simp [x.length_octets], by simp [x.length_octets, maxAddressLength]⟩

def ofIpv4 (x : Ipv4) : NetAddr :=
  ⟨x.octets, by simp [Ipv4.octets], by simp [Ipv4.octets, maxAddressLength]⟩

end NetAddr

end RouteDiscovery.Wire
