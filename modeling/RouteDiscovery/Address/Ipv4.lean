/-
# IPv4 addresses

Four octets, written in decimal with points between them.  A written octet has one to three
digits, is at most 255 and has no leading zero.
-/
import RouteDiscovery.Text.Numeral

namespace RouteDiscovery

/-- An IPv4 address, from the most significant octet. -/
structure Ipv4 where
  a : UInt8
  b : UInt8
  c : UInt8
  d : UInt8
deriving DecidableEq, Repr, Inhabited

namespace Ipv4

/-- The octets in network order. -/
def octets (x : Ipv4) : List UInt8 := [x.a, x.b, x.c, x.d]

/-- Reads a written octet off the front of a text. -/
def readOctet? (s : List Char) : Option (UInt8 × List Char) :=
  let digits := s.takeWhile (Text.isDigitOf 10)
  if digits.length ≤ 3 ∧ (digits.head? = some '0' → digits.length = 1) then do
    let n ← Text.natOfDigits? 10 digits
    if n < 256 then some (n.toUInt8, s.dropWhile (Text.isDigitOf 10)) else none
  else none

/-- Reads a point and a written octet off the front of a text. -/
def readPointOctet? : List Char → Option (UInt8 × List Char)
  | '.' :: s => readOctet? s
  | _ => none

/-- Reads an address off the front of a text. -/
def read? (s : List Char) : Option (Ipv4 × List Char) := do
  let (a, s) ← readOctet? s
  let (b, s) ← readPointOctet? s
  let (c, s) ← readPointOctet? s
  let (d, s) ← readPointOctet? s
  return (⟨a, b, c, d⟩, s)

/-- The address that a text writes. -/
def ofString? (text : String) : Option Ipv4 :=
  match read? text.toList with
  | some (x, []) => some x
  | _ => none

def text (x : Ipv4) : String :=
  ".".intercalate (x.octets.map fun o => toString o.toNat)

end Ipv4

end RouteDiscovery
