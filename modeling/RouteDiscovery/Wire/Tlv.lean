/-
# Address TLVs

    <type:8> <flags:8> [<type extension:8>] <index:8> <length:8 or 16> <value>

A TLV applies to the address at one index.  The length has two octets if the value is longer
than 255.  A TLV is put as one piece, so it is in the buffer as a whole or not at all.
-/
import RouteDiscovery.Wire.Buffer
import RouteDiscovery.Wire.Flags

namespace RouteDiscovery.Wire

/-- The longest value that a TLV can carry. -/
def maxTlvValueLength : Nat := maxWord

/-- The longest value whose length fits one octet. -/
def maxShortLength : Nat := 255

/-- The type of a TLV. -/
structure TlvType where
  kind : UInt8
  /-- The type extension, if there is one. -/
  ext : Option UInt8 := none
deriving DecidableEq, Repr, Inhabited

/-- The number of bytes of an address TLV. -/
def addrTlvSize (type : TlvType) (valueLength : Nat) : Nat :=
  2 + (if type.ext.isSome then 1 else 0) + 1 + (if maxShortLength < valueLength then 2 else 1) +
    valueLength

/-- An address TLV of a message. -/
structure AddrTlv where
  type : TlvType
  index : Nat
  value : List UInt8
deriving DecidableEq, Repr

namespace AddrTlv

/-- Whether the length field has two octets. -/
def isLong (t : AddrTlv) : Bool := maxShortLength < t.value.length

/-- The flags octet. -/
def flags (t : AddrTlv) : TlvFlags :=
  (TlvFlags.singleIndex.union .hasValue).union
    (((if t.type.ext.isSome then .hasTypeExt else ⟨0⟩ : TlvFlags)).union
      (if t.isLong then .extLen else ⟨0⟩))

def lengthBytes (t : AddrTlv) : List UInt8 :=
  if t.isLong then wordBytes t.value.length.toUInt16 else [t.value.length.toUInt8]

/-- The bytes of the TLV. -/
def bytes (t : AddrTlv) : List UInt8 :=
  [t.type.kind, t.flags.bits] ++ t.type.ext.toList ++ [t.index.toUInt8] ++ t.lengthBytes ++ t.value

/-- The TLV as one piece. -/
def piece (t : AddrTlv) : Buffer.Piece :=
  if t.value.length ≤ maxTlvValueLength then .ok t.bytes
  else .error (.tlvValueTooLong t.value.length)

/-- Appends the TLV to a buffer. -/
def encode (t : AddrTlv) (b : Buffer) : Except WireError Buffer := b.writeAll [t.piece]

/-- A TLV has the size that `addrTlvSize` says. -/
theorem length_bytes (t : AddrTlv) : t.bytes.length = addrTlvSize t.type t.value.length := by
  unfold bytes addrTlvSize lengthBytes isLong wordBytes
  cases t.type.ext <;> by_cases h : maxShortLength < t.value.length <;> simp [h] <;> omega

end AddrTlv

end RouteDiscovery.Wire
