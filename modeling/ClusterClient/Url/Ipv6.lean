import ClusterClient.Url.Ipv4

namespace ClusterClient.Ipv6

/-- A group of one to four hexadecimal digits. -/
def group? (digits : List Char) : Option Nat :=
  if digits.isEmpty || 4 < digits.length then none else Ipv4.number? 16 digits

/-- A decimal byte without leading zeros. -/
def byte? (digits : List Char) : Option Nat := do
  let value ← Ipv4.number? 10 digits
  if digits = (toString value).toList && value ≤ 255 then some value else none

/-- The two groups of four dotted bytes. -/
def dotted? (chars : List Char) : Option (List Nat) := do
  match ← (chars.splitOn '.').mapM byte? with
  | [a, b, c, d] => some [256 * a + b, 256 * c + d]
  | _ => none

/-- The groups of a run without gaps. The last one may be written as dotted bytes if `final`. -/
def groups? (final : Bool) (chars : List Char) : Option (List Nat) := do
  if chars.isEmpty then some []
  else
    let written := chars.splitOn ':'
    let leading ← written.dropLast.mapM group?
    let last := written.getLast?.getD []
    if final && last.contains '.' then some (leading ++ (← dotted? last))
    else some (leading ++ [← group? last])

/-- A text around its first double colon. -/
def cutGap : List Char → Option (List Char × List Char)
  | ':' :: ':' :: after => some ([], after)
  | c :: rest => (cutGap rest).map fun (before, after) => (c :: before, after)
  | [] => none

/-- The eight groups of an address. A double colon stands for one or more groups of zeros. -/
def ofText? (chars : List Char) : Option (List Nat) := do
  match cutGap chars with
  | none =>
    let groups ← groups? true chars
    if groups.length = 8 then some groups else none
  | some (before, after) =>
    let left ← groups? false before
    let right ← groups? true after
    if left.length + right.length < 8 then
      some (left ++ List.replicate (8 - left.length - right.length) 0 ++ right)
    else none

/-- How many zeros a list starts with. -/
def leadingZeros (groups : List Nat) : Nat := (groups.takeWhile (· == 0)).length

/-- The start and length of the first longest run of zeros. -/
def longestZeros (start : Nat) : List Nat → Nat × Nat
  | [] => (start, 0)
  | group :: rest =>
    let here := leadingZeros (group :: rest)
    let later := longestZeros (start + 1) rest
    if later.2 ≤ here then (start, here) else later

def hexText (group : Nat) : String := String.ofList (Nat.toDigits 16 group)

def joined (groups : List Nat) : String := String.intercalate ":" (groups.map hexText)

/-- The text of an address. The first longest run of at least two zeros becomes a double colon. -/
def text (groups : List Nat) : String :=
  let (start, length) := longestZeros 0 groups
  if length < 2 then joined groups
  else joined (groups.take start) ++ "::" ++ joined (groups.drop (start + length))

end ClusterClient.Ipv6
