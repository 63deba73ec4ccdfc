/-
# Numerals

Unsigned numerals of a radix up to sixteen: digits only (`natOfDigits?`), or with one plus sign
before them and a bound on the value (`bounded?`).
-/

namespace RouteDiscovery.Text

/-- The value of a digit in the given radix; letters of either case stand for ten to fifteen. -/
def digitValue? (radix : Nat) (c : Char) : Option Nat :=
  let n := c.toNat
  let v :=
    if 48 ≤ n ∧ n ≤ 57 then some (n - 48)
    else if 97 ≤ n ∧ n ≤ 102 then some (n - 87)
    else if 65 ≤ n ∧ n ≤ 70 then some (n - 55)
    else none
  v.filter (· < radix)

/-- A digit of the given radix. -/
def isDigitOf (radix : Nat) (c : Char) : Bool := (digitValue? radix c).isSome

/-- The value of a sequence of digits that continues a numeral of value `acc`. -/
def continueDigits? (radix : Nat) : Nat → List Char → Option Nat
  | acc, [] => some acc
  | acc, c :: cs => do continueDigits? radix (acc * radix + (← digitValue? radix c)) cs

/-- The value of a numeral: at least one digit and nothing else. -/
def natOfDigits? (radix : Nat) : List Char → Option Nat
  | [] => none
  | cs => continueDigits? radix 0 cs

/-- The value of a numeral below `bound`, with at most one plus sign before its digits. -/
def bounded? (radix bound : Nat) (cs : List Char) : Option Nat :=
  let digits := match cs with
    | '+' :: rest => rest
    | _ => cs
  (natOfDigits? radix digits).filter (· < bound)

end RouteDiscovery.Text
