namespace ClusterClient

/-- A finite double: `significand * 2 ^ exponent`, and a sign. The significand stays below `2 ^ 53`
and the exponent between `-1074` and `971`; below `2 ^ 52` the exponent is the least one. -/
structure Binary64 where
  negative : Bool
  significand : Nat
  exponent : Int
  deriving DecidableEq, Repr

namespace Binary64

/-- `2 ^ 52`, the least significand of 53 bits. -/
def leastFull : Nat := 0x10000000000000

def zero : Binary64 := ⟨false, 0, -1074⟩

def neg (x : Binary64) : Binary64 := { x with negative := !x.negative }

def isZero (x : Binary64) : Bool := x.significand == 0

/-- The quotient of two naturals in units of `2 ^ exponent`, as a fraction. -/
def inUnits (num den : Nat) (exponent : Int) : Nat × Nat :=
  (num * Nat.pow 2 (-exponent).toNat, den * Nat.pow 2 exponent.toNat)

/-- Half a unit goes to the even neighbour. -/
def nearest (num den : Nat) : Nat :=
  let quotient := num / den
  let twice := 2 * (num % den)
  if den < twice || (twice == den && quotient % 2 == 1) then quotient + 1 else quotient

/-- The exponent whose units leave 53 bits of a quotient, or the least one. -/
def exponentFor (num den : Nat) : Int :=
  let low : Int := max ((Nat.log2 num : Int) - (Nat.log2 den : Int) - 53) (-1074)
  let (n, d) := inUnits num den low
  if n / d < 2 * leastFull then low else low + 1

/-- The double nearest to the quotient of two naturals; none beyond the greatest double. -/
def ofRatio? (num den : Nat) : Option Binary64 :=
  if num = 0 then some zero
  else
    let exponent := exponentFor num den
    let (n, d) := inUnits num den exponent
    let rounded := nearest n d
    let x : Binary64 :=
      if rounded = 2 * leastFull then ⟨false, leastFull, exponent + 1⟩
      else ⟨false, rounded, exponent⟩
    if x.exponent ≤ 971 then some x else none

/-- The magnitude of a double as a fraction. -/
def ratio (x : Binary64) : Nat × Nat :=
  (x.significand * Nat.pow 2 x.exponent.toNat, Nat.pow 2 (-x.exponent).toNat)

/-- The rounded product of two magnitudes. -/
def mul? (x y : Binary64) : Option Binary64 :=
  ofRatio? (x.ratio.1 * y.ratio.1) (x.ratio.2 * y.ratio.2)

/-- The rounded quotient of two magnitudes, the second not zero. -/
def div? (x y : Binary64) : Option Binary64 :=
  ofRatio? (x.ratio.1 * y.ratio.2) (x.ratio.2 * y.ratio.1)

end Binary64

end ClusterClient
