/-
# IPv6 addresses

An address is its sixteen octets.  Its text form has eight groups of hexadecimal digits:

* `Ipv6.text` writes lower case without leading zeros, puts `::` for the first of the longest
  runs of two or more zero groups, and shows the dotted form only for an IPv4-mapped address;
* `Ipv6.ofString?` reads groups of one to four digits; `::` stands for at least one group, and
  a dotted form may take the place of the last two groups.
-/
import RouteDiscovery.Address.Ipv4
import RouteDiscovery.Word

namespace RouteDiscovery

/-- An IPv6 address: sixteen octets in network order. -/
structure Ipv6 where
  octets : List UInt8
  length_octets : octets.length = 16
deriving DecidableEq, Repr

namespace Ipv6

/-- The address with the given eight groups. -/
def ofWords (a b c d e f g h : UInt16) : Ipv6 :=
  ⟨wordBytes a ++ wordBytes b ++ wordBytes c ++ wordBytes d ++
    wordBytes e ++ wordBytes f ++ wordBytes g ++ wordBytes h, rfl⟩

/-- The unspecified address, all zero. -/
def unspecified : Ipv6 := ofWords 0 0 0 0 0 0 0 0

def localhost : Ipv6 := ofWords 0 0 0 0 0 0 0 1

instance : Inhabited Ipv6 := ⟨unspecified⟩

def isUnspecified (x : Ipv6) : Bool := x = unspecified

def words (x : Ipv6) : List UInt16 := wordsOfBytes x.octets

/-- The address with the listed groups, if there are eight. -/
def ofWordList? : List UInt16 → Option Ipv6
  | [a, b, c, d, e, f, g, h] => some (ofWords a b c d e f g h)
  | _ => none

/-! ## Writing -/

/-- The lower-case hexadecimal digits of a group. -/
def groupText (w : UInt16) : String := String.ofList (Nat.toDigits 16 w.toNat)

def groupsText (ws : List UInt16) : String := ":".intercalate (ws.map groupText)

/-- The number of zero groups at the front. -/
def zeroRun (ws : List UInt16) : Nat := (ws.takeWhile (· = 0)).length

/-- Start and length of the longest run of zero groups, the first one of several. -/
def longestZeroRun (ws : List UInt16) : Nat × Nat :=
  (List.range ws.length).foldl
    (fun best i => if best.2 < zeroRun (ws.drop i) then (i, zeroRun (ws.drop i)) else best) (0, 0)

/-- The IPv4 address that an IPv4-mapped address carries. -/
def mappedIpv4? (x : Ipv6) : Option Ipv4 :=
  match x.octets with
  | [0, 0, 0, 0, 0, 0, 0, 0, 0, 0, 255, 255, a, b, c, d] => some ⟨a, b, c, d⟩
  | _ => none

def text (x : Ipv6) : String :=
  match x.mappedIpv4? with
  | some v4 => "::ffff:" ++ v4.text
  | none =>
    let (start, length) := longestZeroRun x.words
    if 1 < length then
      groupsText (x.words.take start) ++ "::" ++ groupsText (x.words.drop (start + length))
    else groupsText x.words

instance : ToString Ipv6 := ⟨text⟩

/-! ## Reading -/

/-- Reads a group of one to four hexadecimal digits off the front of a text. -/
def readGroup? (s : List Char) : Option (UInt16 × List Char) :=
  let digits := s.takeWhile (Text.isDigitOf 16)
  if digits.length ≤ 4 then do
    let n ← Text.natOfDigits? 16 digits
    return (n.toUInt16, s.dropWhile (Text.isDigitOf 16))
  else none

/-- The text after the colon that a group needs before it, unless it is the first. -/
def afterColon? (first : Bool) (s : List Char) : Option (List Char) :=
  if first then some s
  else match s with
    | ':' :: rest => some rest
    | _ => none

/-- What reading a row of groups gives. -/
structure Groups where
  words : List UInt16
  /-- Whether the last two came from a dotted form. -/
  dotted : Bool
  rest : List Char

/-- Reads as many groups as there are, at most `limit`; a dotted form needs room for two. -/
def readGroups : Nat → Bool → List Char → Groups
  | 0, _, s => ⟨[], false, s⟩
  | limit + 1, first, s =>
    match afterColon? first s with
    | none => ⟨[], false, s⟩
    | some body =>
      match if limit = 0 then none else Ipv4.read? body with
      | some (q, rest) => ⟨[wordOfBytes q.a q.b, wordOfBytes q.c q.d], true, rest⟩
      | none =>
        match readGroup? body with
        | some (w, rest) =>
          let more := readGroups limit false rest
          ⟨w :: more.words, more.dotted, more.rest⟩
        | none => ⟨[], false, s⟩

/-- The address that a sequence of characters writes. -/
def ofChars? (s : List Char) : Option Ipv6 :=
  let head := readGroups 8 true s
  if head.words.length = 8 then
    if head.rest = [] then ofWordList? head.words else none
  else if head.dotted then none
  else match head.rest with
    | ':' :: ':' :: rest =>
      let tail := readGroups (7 - head.words.length) true rest
      let zeros := List.replicate (8 - head.words.length - tail.words.length) 0
      if tail.rest = [] then ofWordList? (head.words ++ zeros ++ tail.words) else none
    | _ => none

def ofString? (text : String) : Option Ipv6 := ofChars? text.toList

end Ipv6

end RouteDiscovery
