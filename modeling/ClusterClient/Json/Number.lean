import ClusterClient.Json

namespace ClusterClient.Json

/-- A number as written: the digits before and after the point, and the exponent if there is one. -/
structure Numeral where
  negative : Bool
  whole : List Nat
  fraction : List Nat
  /-- Whether the exponent is negative, and its digits. -/
  exponent : Option (Bool × List Nat)
  deriving DecidableEq, Repr

namespace Numeral

def natOfDigits (digits : List Nat) : Nat :=
  digits.foldl (fun n digit => 10 * n + digit) 0

/-- Integers stay below this, `2 ^ 64`. -/
def wordBound : Nat := 0x10000000000000000

/-- The magnitude of the least integer, `2 ^ 63`. -/
def leastMagnitude : Nat := 0x8000000000000000

/-- Take digits on as long as the number stays below `2 ^ 64`. The digits that are left come back
with it. -/
def accumulate (significand : Nat) : List Nat → Nat × List Nat
  | [] => (significand, [])
  | digit :: rest =>
    if 10 * significand + digit < wordBound then accumulate (10 * significand + digit) rest
    else (significand, digit :: rest)

/-- The powers of ten that the scaling below multiplies and divides by. -/
def powerOfTen? (n : Nat) : Option Binary64 := Binary64.ofRatio? (Nat.pow 10 n) 1

/-- Divide by powers of ten, no more than `10 ^ 308` at a time; every step rounds. -/
def scaleDown? (x : Binary64) (power : Nat) : Option Binary64 :=
  if power ≤ 308 then do x.div? (← powerOfTen? power)
  else if x.isZero then some x
  else do
    let smaller ← x.div? (← powerOfTen? 308)
    scaleDown? smaller (power - 308)
termination_by power

/-- A significand times a power of ten, in floating point. None beyond the greatest double. -/
def scale? (significand : Nat) (power : Int) : Option Binary64 := do
  let x ← Binary64.ofRatio? significand 1
  if power < 0 then scaleDown? x power.natAbs
  else if power ≤ 308 then x.mul? (← powerOfTen? power.toNat)
  else if x.isZero then some x
  else none

/-- The double of a numeral, up to its sign. Digits past the first `2 ^ 64` only count as places. -/
def double? (numeral : Numeral) : Option Binary64 :=
  let (whole, dropped) := accumulate 0 numeral.whole
  let (significand, ignored) := accumulate whole numeral.fraction
  let power : Int := dropped.length - (numeral.fraction.length - ignored.length : Nat)
  match numeral.exponent with
  | none => scale? significand power
  | some (down, digits) =>
    let exponent := natOfDigits digits
    if exponent < 0x80000000 then
      scale? significand (if down then power - exponent else power + exponent)
    else if significand = 0 || down then some Binary64.zero
    else none

/-- The number a numeral stands for; none beyond the greatest double. An integer that fits stays
one, but minus zero is a double. -/
def number? (numeral : Numeral) : Option Number :=
  let n := natOfDigits numeral.whole
  if numeral.fraction = [] && numeral.exponent = none && n < wordBound
      && !(numeral.negative && (n = 0 || leastMagnitude < n)) then
    some (.integer (if numeral.negative then -n else n))
  else numeral.double?.map fun x => .double (if numeral.negative then x.neg else x)

end Numeral

end ClusterClient.Json
