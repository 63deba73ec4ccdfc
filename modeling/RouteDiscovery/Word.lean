/-
# Words of two octets

In packets and addresses a word stands as two octets, the more significant one first.
-/

namespace RouteDiscovery

/-- The two octets of a word. -/
def wordBytes (w : UInt16) : List UInt8 := [(w >>> 8).toUInt8, w.toUInt8]

/-- The word that two octets make. -/
def wordOfBytes (hi lo : UInt8) : UInt16 := hi.toUInt16 <<< 8 ||| lo.toUInt16

/-- The words that a sequence of octets makes, two by two. -/
def wordsOfBytes : List UInt8 → List UInt16
  | hi :: lo :: rest => wordOfBytes hi lo :: wordsOfBytes rest
  | _ => []

/-- A word has two octets. -/
@[simp] theorem length_wordBytes (w : UInt16) : (wordBytes w).length = 2 := rfl

end RouteDiscovery
