/-
# Durations in words

A duration is a sum of numbers with units, such as `1h 30min` or `1.5s`.  Blanks may stand
before, between and inside the numbers and after the units.  A number without a unit is no
duration, except for a lone `0`.  No number on the way may need more than 64 bits, and nothing is
rounded: `1.5s` is a duration, `0.333h` and `1.5ns` are none.
-/
import RouteDiscovery.Text.Blank
import RouteDiscovery.Text.Numeral

namespace RouteDiscovery

/-- A span of time. -/
structure Duration where
  seconds : Nat := 0
  /-- Nanoseconds beyond them. -/
  nanoseconds : Nat := 0
deriving DecidableEq, Repr, Inhabited

namespace Duration

inductive Unit where
  | nanosecond
  | microsecond
  | millisecond
  | second
  | minute
  | hour
  | day
  | week
  | month
  | year
deriving DecidableEq, Repr

/-- How the units are written. -/
def unitNames : List (String × Unit) := [
  ("nanos", .nanosecond), ("nsec", .nanosecond), ("ns", .nanosecond),
  ("usec", .microsecond), ("us", .microsecond), ("\u00B5s", .microsecond),
  ("millis", .millisecond), ("msec", .millisecond), ("ms", .millisecond),
  ("seconds", .second), ("second", .second), ("secs", .second), ("sec", .second), ("s", .second),
  ("minutes", .minute), ("minute", .minute), ("min", .minute), ("mins", .minute), ("m", .minute),
  ("hours", .hour), ("hour", .hour), ("hr", .hour), ("hrs", .hour), ("h", .hour),
  ("days", .day), ("day", .day), ("d", .day),
  ("weeks", .week), ("week", .week), ("wk", .week), ("wks", .week), ("w", .week),
  ("months", .month), ("month", .month), ("M", .month),
  ("years", .year), ("year", .year), ("yr", .year), ("yrs", .year), ("y", .year)]

/-- The seconds of a unit; a month has 30.44 days and a year 365.25. -/
def Unit.seconds : Unit → Nat
  | nanosecond | microsecond | millisecond => 0
  | second => 1
  | minute => 60
  | hour => 3600
  | day => 86400
  | week => 604800
  | month => 2630016
  | year => 31557600

/-- The nanoseconds of a unit up to the minute. -/
def Unit.nanoseconds : Unit → Nat
  | nanosecond => 1
  | microsecond => 1000
  | millisecond => 1000000
  | second => 1000000000
  | minute => 60000000000
  | _ => 0

def nanosecondsPerSecond : Nat := 1000000000

/-- A number that fits 64 bits. -/
def word? (n : Nat) : Option Nat := if n < UInt64.size then some n else none

/-- The duration that is longer by some seconds and nanoseconds. -/
def add? (d : Duration) (seconds nanoseconds : Nat) : Option Duration := do
  let nanoseconds ← word? (d.nanoseconds + nanoseconds)
  let seconds ← word? (seconds + d.seconds + nanoseconds / nanosecondsPerSecond)
  return ⟨seconds, nanoseconds % nanosecondsPerSecond⟩

/-- The digits behind a decimal point. -/
structure Fraction where
  numerator : Nat := 0
  /-- The power of ten that they are parts of. -/
  denominator : Nat := 1
deriving Repr

/-- The fraction with a further digit. -/
def Fraction.addDigit? (f : Fraction) (digit : Nat) : Option Fraction := do
  return ⟨← word? (f.numerator * 10 + digit), ← word? (f.denominator * 10)⟩

/-- The duration that is longer by a whole number of a unit. -/
def addWhole? (d : Duration) (n : Nat) (u : Unit) : Option Duration := do
  if u.seconds = 0 then d.add? 0 (← word? (n * u.nanoseconds))
  else d.add? (← word? (n * u.seconds)) 0

/-- The fraction of a number, if it is a whole number. -/
def Fraction.of? (f : Fraction) (n : Nat) : Option Nat := do
  let product ← word? (f.numerator * n)
  if product % f.denominator = 0 then some (product / f.denominator) else none

/-- The duration that is longer by a fraction of a unit.  The fraction must be a whole number of
nanoseconds for units up to the minute and of seconds for longer ones; a nanosecond has none. -/
def addFraction? (d : Duration) (f : Fraction) (u : Unit) : Option Duration := do
  if u = .nanosecond then none
  else if u.nanoseconds = 0 then d.add? (← f.of? u.seconds) 0
  else d.add? 0 (← f.of? u.nanoseconds)

/-- A number as far as it was read. -/
structure Amount where
  whole : Nat
  fraction : Option Fraction := none
deriving Repr

/-- The duration that is longer by an amount of a written unit. -/
def addAmount? (d : Duration) (a : Amount) (unit : List Char) : Option Duration := do
  let u ← unitNames.lookup (String.ofList unit)
  let d ← d.addWhole? a.whole u
  match a.fraction with
  | none => return d
  | some f => d.addFraction? f u

/-- What is being read. -/
inductive Phase where
  /-- The first digit of a number; `first` if there was no number before. -/
  | start (first : Bool)
  | whole (n : Nat)
  | fraction (n : Nat) (f : Fraction)
  | unit (a : Amount) (letters : List Char)
deriving Repr

/-- A character of a unit. -/
def isUnitLetter (c : Char) : Bool := c.isAlpha || c = '\u00B5'

/-- Reads on after a sum so far. -/
def read? : Phase → Duration → List Char → Option Duration
  | .start first, d, [] => if first then none else some d
  | .whole _, _, [] | .fraction .., _, [] => none
  | .unit a letters, d, [] => d.addAmount? a letters
  | .start first, d, c :: s =>
    match Text.digitValue? 10 c with
    | some digit => read? (.whole digit) d s
    | none => if Text.isBlank c then read? (.start first) d s else none
  | .whole n, d, c :: s =>
    match Text.digitValue? 10 c with
    | some digit => do read? (.whole (← word? (n * 10 + digit))) d s
    | none =>
      if Text.isBlank c then read? (.whole n) d s
      else if isUnitLetter c then read? (.unit { whole := n } [c]) d s
      else if c = '.' then read? (.fraction n {}) d s
      else none
  | .fraction n f, d, c :: s =>
    match Text.digitValue? 10 c with
    | some digit => do read? (.fraction n (← f.addDigit? digit)) d s
    | none =>
      if Text.isBlank c then read? (.fraction n f) d s
      else if isUnitLetter c && f.denominator != 1 then
        read? (.unit { whole := n, fraction := some f } [c]) d s
      else none
  | .unit a letters, d, c :: s =>
    match Text.digitValue? 10 c with
    | some digit => do read? (.whole digit) (← d.addAmount? a letters) s
    | none =>
      if Text.isBlank c then do read? (.start false) (← d.addAmount? a letters) s
      else if isUnitLetter c then read? (.unit a (letters ++ [c])) d s
      else none

/-- The duration that a text writes. -/
def ofString? (text : String) : Option Duration :=
  if text = "0" then some {} else read? (.start true) {} text.toList

end Duration

end RouteDiscovery
