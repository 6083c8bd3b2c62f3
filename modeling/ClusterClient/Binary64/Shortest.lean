import ClusterClient.Binary64

namespace ClusterClient.Binary64

/-- A decimal `digits * 10 ^ exponent`. -/
structure Decimal where
  digits : Nat
  exponent : Int
  deriving DecidableEq, Repr

/-- Four times the significand and the ends of the interval that rounds to a double, all in
quarters of its unit. Below a power of two the neighbours are closer. -/
def quarters (x : Binary64) : Nat × Nat × Nat :=
  let mid := 4 * x.significand
  let low := if x.significand = leastFull && -1074 < x.exponent then mid - 1 else mid - 2
  (low, mid, mid + 2)

/-- Both sides of comparing `digits * 10 ^ power` with `quarters` quarter units of a double. -/
def sides (x : Binary64) (power : Int) (digits quarters : Nat) : Nat × Nat :=
  let unit := x.exponent - 2
  (digits * Nat.pow 10 power.toNat * Nat.pow 2 (-unit).toNat,
    quarters * Nat.pow 2 unit.toNat * Nat.pow 10 (-power).toNat)

/-- Whether a decimal rounds to a double. The ends of the interval do if the significand is even. -/
def readsBack (x : Binary64) (power : Int) (digits : Nat) : Bool :=
  let (low, _, high) := x.quarters
  let (at₁, least) := x.sides power digits low
  let (at₂, most) := x.sides power digits high
  if x.significand % 2 = 0 then least ≤ at₁ && at₂ ≤ most else least < at₁ && at₂ < most

/-- The multiple of `10 ^ power` just below a double. -/
def below (x : Binary64) (power : Int) : Nat :=
  let (unit, mid) := x.sides power 1 x.quarters.2.1
  mid / unit

/-- Of the two multiples of `10 ^ power` next to a double the one that reads back; of two such the
nearer, and of two equally near ones the even one. -/
def onGrid? (x : Binary64) (power : Int) : Option Nat :=
  let down := x.below power
  let (unit, mid) := x.sides power 1 x.quarters.2.1
  match x.readsBack power down, x.readsBack power (down + 1) with
  | true, true =>
    let twice := 2 * (mid - down * unit)
    some (if twice < unit || (twice == unit && down % 2 == 0) then down else down + 1)
  | true, false => some down
  | false, true => some (down + 1)
  | false, false => none

/-- The power of ten of a double's first digit. -/
def leadingPower (x : Binary64) : Int :=
  let guess : Int := ((Nat.log2 x.significand : Int) + x.exponent) * 1233 / 4096
  if x.below guess = 0 then guess - 1
  else if x.below (guess + 1) = 0 then guess
  else guess + 1

/-- The first hit on the grids `10 ^ power`, `10 ^ (power - 1)`, … -/
def firstHit (x : Binary64) (power : Int) : Nat → Decimal
  | 0 => ⟨x.below power, power⟩
  | more + 1 =>
    match x.onGrid? power with
    | some digits => ⟨digits, power⟩
    | none => x.firstHit (power - 1) more

/-- A decimal without trailing zeros in its digits. -/
def Decimal.trimmed (fuel : Nat) (d : Decimal) : Decimal :=
  match fuel with
  | 0 => d
  | fuel + 1 =>
    if d.digits ≠ 0 && d.digits % 10 = 0 then trimmed fuel ⟨d.digits / 10, d.exponent + 1⟩ else d

/-- The decimal of fewest digits that rounds to a double other than zero. Seventeen always do. -/
def shortest (x : Binary64) : Decimal :=
  (x.firstHit x.leadingPower 17).trimmed 17

/-- The text of an exponent, always signed. -/
def exponentText (exponent : Int) : List Char :=
  'e' :: (if exponent < 0 then '-' else '+') :: (toString exponent.natAbs).toList

/-- Digits with a point after the first one. -/
def pointed : List Char → List Char
  | [] => []
  | [digit] => [digit]
  | digit :: rest => digit :: '.' :: rest

/-- The text of a decimal: positional from `10 ^ -5` to below `10 ^ 16`, and always with a point
or an exponent. -/
def Decimal.text (d : Decimal) : List Char :=
  let digits := (toString d.digits).toList
  let point : Int := digits.length + d.exponent
  if 0 ≤ d.exponent && point ≤ 16 then
    digits ++ List.replicate d.exponent.toNat '0' ++ ['.', '0']
  else if 0 < point && point ≤ 16 then
    digits.take point.toNat ++ '.' :: digits.drop point.toNat
  else if -5 < point && point ≤ 0 then
    '0' :: '.' :: List.replicate (-point).toNat '0' ++ digits
  else pointed digits ++ exponentText (point - 1)

/-- The shortest text that reads back as a double. -/
def text (x : Binary64) : List Char :=
  (if x.negative then ['-'] else []) ++ (if x.isZero then ['0', '.', '0'] else x.shortest.text)

end ClusterClient.Binary64
