import ClusterClient.Binary64
import ClusterClient.Url.Ipv4

namespace ClusterClient.Yaml

/-- The plain texts for nothing. -/
def isNull (text : String) : Bool := ["null", "Null", "NULL", "~"].contains text

/-- The plain texts for truth values. -/
def isBool (text : String) : Bool :=
  ["true", "True", "TRUE", "false", "False", "FALSE"].contains text

/-- A zero that further digits follow is no number. -/
def isZeroPadded (chars : List Char) : Bool :=
  let digits := match chars with
    | '-' :: rest => rest
    | '+' :: rest => rest
    | all => all
  1 < digits.length && digits.head? == some '0' && digits.all Char.isDigit

/-- Digits of a base after its mark, or decimal digits. -/
def naturalOf? (chars : List Char) : Option Nat :=
  let ofDigits (base : Nat) (digits : List Char) : Option Nat :=
    if digits.isEmpty then none else Ipv4.number? base digits
  match chars with
  | '0' :: 'x' :: digits => ofDigits 16 digits
  | '0' :: 'o' :: digits => ofDigits 8 digits
  | '0' :: 'b' :: digits => ofDigits 2 digits
  | digits => ofDigits 10 digits

/-- The natural number that a plain text stands for, if it stays below a bound. -/
def natural? (bound : Nat) (text : String) : Option Nat :=
  let chars := text.toList
  let unsigned := if chars.head? = some '+' then chars.tail else chars
  if isZeroPadded chars then none
  else (naturalOf? unsigned).filter (· < bound)

/-- The magnitude of the negative integer that a plain text stands for, if it is no more than a
bound. -/
def negative? (bound : Nat) (text : String) : Option Nat :=
  match text.toList with
  | '-' :: rest =>
    if isZeroPadded text.toList then none else (naturalOf? rest).filter (· ≤ bound)
  | _ => none

/-- The parts of a decimal: its digits without a point, how many of them follow the point, and the
exponent. -/
def decimalParts? (chars : List Char) : Option (List Char × Nat × Int) :=
  let whole := chars.takeWhile Char.isDigit
  let rest := chars.dropWhile Char.isDigit
  let (fraction, rest) := match rest with
    | '.' :: rest => (rest.takeWhile Char.isDigit, rest.dropWhile Char.isDigit)
    | rest => ([], rest)
  if whole.isEmpty && fraction.isEmpty then none
  else
    let parts (exponent : Int) := some (whole ++ fraction, fraction.length, exponent)
    match rest with
    | [] => parts 0
    | mark :: rest =>
      let (down, digits) := match rest with
        | '-' :: digits => (true, digits)
        | '+' :: digits => (false, digits)
        | digits => (false, digits)
      if (mark == 'e' || mark == 'E') && !digits.isEmpty then
        (Ipv4.number? 10 digits).bind fun n => parts (if down then -n else n)
      else none

/-- Whether a decimal rounds to a finite double. -/
def isFinite (digits : List Char) (places : Nat) (exponent : Int) : Bool :=
  let significant := digits.dropWhile (· == '0')
  let power : Int := exponent - places
  if significant.isEmpty || (significant.length : Int) + power ≤ 308 then true
  else if 310 < (significant.length : Int) + power then false
  else match Ipv4.number? 10 significant with
    | some n => (Binary64.ofRatio? (n * Nat.pow 10 power.toNat) (Nat.pow 10 (-power).toNat)).isSome
    | none => false

/-- Whether a plain text stands for a decimal number, an infinity or no number. -/
def isFloat (text : String) : Bool :=
  let chars := text.toList
  let unsigned := if chars.head? = some '+' then chars.tail else chars
  if chars.head? = some '+' && (unsigned.head? = some '+' || unsigned.head? = some '-') then false
  else if [".inf", ".Inf", ".INF"].contains (String.ofList unsigned) then true
  else if ["-.inf", "-.Inf", "-.INF", ".nan", ".NaN", ".NAN"].contains text then true
  else
    let magnitude := if unsigned.head? = some '-' then unsigned.tail else unsigned
    match decimalParts? magnitude with
    | some (digits, places, exponent) => isFinite digits places exponent
    | none => false

/-- Whether a text would be taken for something else if it were written plain. -/
def isAmbiguous (text : String) : Bool :=
  text = "" || isNull text || isBool text || (natural? (Nat.pow 2 128) text).isSome
    || (negative? (Nat.pow 2 127) text).isSome || isZeroPadded text.toList || isFloat text

end ClusterClient.Yaml
