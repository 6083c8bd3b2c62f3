namespace ClusterClient.Ipv4

/-- The number of a character as a digit of some base up to sixteen. -/
def digit? (base : Nat) (c : Char) : Option Nat :=
  let value :=
    if '0' ≤ c && c ≤ '9' then c.toNat - 48
    else if 'a' ≤ c && c ≤ 'f' then c.toNat - 87
    else if 'A' ≤ c && c ≤ 'F' then c.toNat - 55
    else base
  if value < base then some value else none

/-- The number of some digits; none if one of them is no digit of the base. -/
def number? (base : Nat) (digits : List Char) : Option Nat :=
  digits.foldlM (fun n c => (digit? base c).map (base * n + ·)) 0

/-- One part of an address: hexadecimal after `0x`, octal after another `0`, else decimal. A bare
`0x` counts as zero. -/
def part? : List Char → Option Nat
  | [] => none
  | '0' :: 'x' :: digits => number? 16 digits
  | '0' :: 'X' :: digits => number? 16 digits
  | '0' :: digit :: digits => number? 8 (digit :: digits)
  | digits => number? 10 digits

/-- The dotted parts of a name, a last empty one aside. -/
def parts (name : List Char) : List (List Char) :=
  let all := name.splitOn '.'
  if all.length > 1 && all.getLast? == some [] then all.dropLast else all

/-- Whether a name has to be an address: its last part is a number. -/
def endsInNumber (name : List Char) : Bool :=
  match (parts name).getLast? with
  | some last => (!last.isEmpty && last.all Char.isDigit) || (part? last).isSome
  | none => false

/-- Up to four parts, of which the last one fills all the bytes that are left. -/
def ofParts? : List Nat → Option Nat
  | [] => none
  | numbers =>
    let leading := numbers.dropLast
    let last := numbers.getLast?.getD 0
    if numbers.length ≤ 4 && leading.all (· ≤ 255) && last < Nat.pow 256 (5 - numbers.length) then
      let high := leading.foldl (fun n byte => 256 * n + byte) 0
      some (high * Nat.pow 256 (5 - numbers.length) + last)
    else none

/-- The address of a dotted name. -/
def ofName? (name : List Char) : Option Nat := do
  ofParts? (← (parts name).mapM part?)

/-- The four bytes of an address, dotted. -/
def text (address : Nat) : String :=
  let byte (i : Nat) : String := toString (address / Nat.pow 256 i % 256)
  byte 3 ++ "." ++ byte 2 ++ "." ++ byte 1 ++ "." ++ byte 0

end ClusterClient.Ipv4
