/-
# Wire errors

The causes for which a message cannot be built, and their wording.
-/

namespace RouteDiscovery.Wire

/-- The buffers of a message writer. -/
inductive BufferKind where
  | message
  /-- The values of its address TLVs. -/
  | addressTlv
  | packet
deriving DecidableEq, Repr, Inhabited

/-- How errors name the buffer. -/
def BufferKind.name : BufferKind → String
  | message => "message"
  | addressTlv => "address tlv"
  | packet => "packet"

/-- Why something cannot be written. -/
inductive WireError where
  | capacity (buffer : BufferKind) (needed available : Nat)
  /-- The message type has no registered width. -/
  | unregistered (type : UInt8)
  | alreadyRegistered (type : UInt8)
  | addressLength (expected got : Nat)
  | tooManyAddresses
  | unknownAddress (index : Nat)
  | undeclaredTlv (kind : UInt8)
  | duplicateTlv (kind : UInt8) (index : Nat)
  /-- The value is longer than the length field can say. -/
  | tlvValueTooLong (length : Nat)
  /-- A header flag is set and its field has no value. -/
  | missingField (name : String)
deriving DecidableEq, Repr, Inhabited

def WireError.message : WireError → String
  | capacity buffer needed available =>
    s!"{buffer.name} buffer exhausted: need {needed} bytes, {available} available"
  | unregistered type => s!"message type {type} not registered"
  | alreadyRegistered type => s!"message type {type} already registered"
  | addressLength expected got => s!"address length {got} invalid (expected {expected})"
  | tooManyAddresses => "too many addresses"
  | unknownAddress index => s!"unknown address index {index}"
  | undeclaredTlv kind => s!"tlv type {kind} not declared for this message"
  | duplicateTlv kind index => s!"duplicate tlv type {kind} on address {index}"
  | tlvValueTooLong length => s!"tlv value too long: {length}"
  | missingField name => s!"message header field missing: {name}"

end RouteDiscovery.Wire
