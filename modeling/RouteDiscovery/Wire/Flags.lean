/-
# Flag octets

Flags are kept as the octet that carries them, bits without a name included.  Their text form
(`FlagTable.text`, `FlagTable.ofString?`) joins names with ` | `; bits that no name covers
follow as one hexadecimal number.
-/
import RouteDiscovery.Text.Blank
import RouteDiscovery.Text.Numeral

namespace RouteDiscovery.Wire

/-- Named bits in the order of their declaration. -/
abbrev FlagTable := List (String × UInt8)

namespace FlagTable

/-- The names of the set flags, and the bits that none of them covers. -/
def split (table : FlagTable) (bits : UInt8) : List String × UInt8 :=
  table.foldl
    (fun acc entry =>
      if bits &&& entry.2 = entry.2 ∧ acc.2 &&& entry.2 ≠ 0 then
        (acc.1 ++ [entry.1], acc.2 &&& ~~~entry.2)
      else acc)
    ([], bits)

/-- A number with its hexadecimal mark. -/
def hexText (bits : UInt8) : String := "0x" ++ String.ofList (Nat.toDigits 16 bits.toNat)

/-- The text of a flag octet. -/
def text (table : FlagTable) (bits : UInt8) : String :=
  let (names, rest) := table.split bits
  " | ".intercalate (if rest = 0 then names else names ++ [hexText rest])

/-- The bits that one part of a flag text stands for. -/
def ofPart? (table : FlagTable) (part : List Char) : Option UInt8 :=
  match part with
  | '0' :: 'x' :: digits => (Text.bounded? 16 256 digits).map Nat.toUInt8
  | _ => table.lookup (String.ofList part)

/-- The bits that a flag text stands for; a blank text stands for none. -/
def ofString? (table : FlagTable) (s : String) : Option UInt8 :=
  if (Text.trim s.toList).isEmpty then some 0
  else do
    let parts ← (s.toList.splitOn '|').mapM fun p => table.ofPart? (Text.trim p)
    return parts.foldl (· ||| ·) 0

end FlagTable

/-- The flags of a message header. -/
structure MsgFlags where
  /-- The octet, low bits included. -/
  bits : UInt8
deriving DecidableEq, Repr, Inhabited

namespace MsgFlags

/-- The originator address is present. -/
def originator : MsgFlags := ⟨0x80⟩

/-- The hop limit is present. -/
def hopLimit : MsgFlags := ⟨0x40⟩

def hopCount : MsgFlags := ⟨0x20⟩

def seqNum : MsgFlags := ⟨0x10⟩

def empty : MsgFlags := ⟨0⟩

/-- Whether all bits of `other` are set. -/
def contains (flags other : MsgFlags) : Bool := flags.bits &&& other.bits = other.bits

def table : FlagTable :=
  [("ORIGINATOR", originator.bits), ("HOP_LIMIT", hopLimit.bits), ("HOP_COUNT", hopCount.bits),
   ("SEQ_NUM", seqNum.bits)]

end MsgFlags

/-- The flags of a TLV. -/
structure TlvFlags where
  bits : UInt8
deriving DecidableEq, Repr, Inhabited

namespace TlvFlags

def hasTypeExt : TlvFlags := ⟨0x80⟩

def singleIndex : TlvFlags := ⟨0x40⟩

def multiIndex : TlvFlags := ⟨0x20⟩

def hasValue : TlvFlags := ⟨0x10⟩

/-- The length has two octets. -/
def extLen : TlvFlags := ⟨0x08⟩

/-- The value is divided among the addresses. -/
def multiValue : TlvFlags := ⟨0x04⟩

/-- The flags of either. -/
def union (a b : TlvFlags) : TlvFlags := ⟨a.bits ||| b.bits⟩

def contains (flags other : TlvFlags) : Bool := flags.bits &&& other.bits = other.bits

def table : FlagTable :=
  [("HAS_TYPE_EXT", hasTypeExt.bits), ("SINGLE_INDEX", singleIndex.bits),
   ("MULTI_INDEX", multiIndex.bits), ("HAS_VALUE", hasValue.bits), ("EXT_LEN", extLen.bits),
   ("MULTI_VALUE", multiValue.bits)]

end TlvFlags

end RouteDiscovery.Wire
