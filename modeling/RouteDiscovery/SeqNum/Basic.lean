/-
# Sequence numbers

A sequence number has sixteen bits.  Zero means that the number is not known; `SeqNum.next`
never gives it and goes from the last number straight to one.  `SeqNum.compare` orders numbers
by the shorter way round the circle, and the unknown number before all others.
-/

namespace RouteDiscovery

/-- A sequence number. -/
abbrev SeqNum := UInt16

namespace SeqNum

/-- The number that stands for "not known". -/
def unknown : SeqNum := 0

/-- The first number. -/
def initial : SeqNum := 1

def next (n : SeqNum) : SeqNum := if n = 65535 then initial else n + 1

/-- The number that follows is never the unknown one. -/
theorem next_ne_unknown (n : SeqNum) : n.next ≠ unknown := by
  unfold next unknown initial
  split
  · decide
  · next h =>
    intro h0
    have hne : n.toNat ≠ 65535 := fun e => h (UInt16.toNat_inj.1 e)
    have hlt : n.toNat < 65536 := n.toNat_lt
    have hz : (n.toNat + 1) % 65536 = 0 := congrArg UInt16.toNat h0
    omega

/-- The serial order: `gt` says that the first number is newer. -/
def compare (a b : SeqNum) : Ordering :=
  if a = b then .eq
  else if a = unknown then .lt
  else if b = unknown then .gt
  else if a - b < 0x8000 then .gt
  else .lt

/-- Whether the first number is newer than the second. -/
def isNewer (a b : SeqNum) : Bool := compare a b == .gt

end SeqNum

end RouteDiscovery
