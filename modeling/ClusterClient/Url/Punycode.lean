namespace ClusterClient.Punycode

/-- The digit of a number below 36: letters first. -/
def digit (n : Nat) : Char :=
  if n < 26 then Char.ofNat (97 + n) else Char.ofNat (22 + n)

def digitValue? (c : Char) : Option Nat :=
  if 'a' ≤ c && c ≤ 'z' then some (c.toNat - 97)
  else if 'A' ≤ c && c ≤ 'Z' then some (c.toNat - 65)
  else if '0' ≤ c && c ≤ '9' then some (c.toNat - 22)
  else none

/-- The least value of the digit at a place that is not the last one. -/
def threshold (place bias : Nat) : Nat :=
  min 26 (max 1 (36 * place - bias))

/-- Shrink a number for the next bias, and count the steps. -/
def shrink (delta steps : Nat) : Nat × Nat :=
  if 455 < delta then shrink (delta / 35) (steps + 1) else (delta, steps)
termination_by delta

def adapt (delta count : Nat) (first : Bool) : Nat :=
  let scaled := if first then delta / 700 else delta / 2
  let (rest, steps) := shrink (scaled + scaled / count) 0
  36 * steps + 36 * rest / (rest + 38)

theorem threshold_pos (place bias : Nat) : 1 ≤ threshold place bias := by
  unfold threshold; omega

theorem threshold_le (place bias : Nat) : threshold place bias ≤ 26 := by
  unfold threshold; omega

/-- A number in digits of growing weight, the least one first. -/
def encodeNumber (bias place n : Nat) : List Char :=
  if n < threshold place bias then [digit n]
  else
    let t := threshold place bias
    digit (t + (n - t) % (36 - t)) :: encodeNumber bias (place + 1) ((n - t) / (36 - t))
termination_by n
decreasing_by
  have low := threshold_pos place bias
  have high := threshold_le place bias
  have quotient := Nat.div_le_self (n - threshold place bias) (36 - threshold place bias)
  omega

/-- What is known between two code points of the output. -/
structure Progress where
  delta : Nat
  bias : Nat
  handled : Nat

/-- Pass over a label for one code point, and write the places where it occurs. -/
def encodeOccurrences (code basic : Nat) (state : Progress) : List Nat → List Char × Progress
  | [] => ([], state)
  | c :: rest =>
    if c < code then
      encodeOccurrences code basic { state with delta := state.delta + 1 } rest
    else if c = code then
      let written := encodeNumber state.bias 1 state.delta
      let bias := adapt state.delta (state.handled + 1) (state.handled == basic)
      let (more, final) := encodeOccurrences code basic ⟨0, bias, state.handled + 1⟩ rest
      (written ++ more, final)
    else encodeOccurrences code basic state rest

/-- Write the code points of a label from `code` on, `rounds` different ones at most. -/
def encodeFrom (label : List Nat) (basic code : Nat) (state : Progress) : Nat → List Char
  | 0 => []
  | rounds + 1 =>
    match (label.filter (code ≤ ·)).min? with
    | none => []
    | some next =>
      let delta := state.delta + (next - code) * (state.handled + 1)
      let (written, after) := encodeOccurrences next basic { state with delta } label
      written ++ encodeFrom label basic (next + 1) { after with delta := after.delta + 1 } rounds

/-- The ASCII form of a label: its ASCII characters, then where the others go. -/
def encode (label : List Char) : List Char :=
  let basic := label.filter (·.toNat < 128)
  let lead := if basic.isEmpty then [] else basic ++ ['-']
  lead ++ encodeFrom (label.map Char.toNat) basic.length 128 ⟨0, 72, basic.length⟩ label.length

/-- Read one number: its value times the weight reached so far, and what follows it. -/
def decodeNumber (bias place weight : Nat) : List Char → Option (Nat × List Char)
  | [] => none
  | c :: rest => do
    let value ← digitValue? c
    let t := threshold place bias
    if value < t then some (value * weight, rest)
    else
      let (more, after) ← decodeNumber bias (place + 1) (weight * (36 - t)) rest
      some (value * weight + more, after)

/-- Insert the code points that some digits place. The fuel bounds their number. -/
def decodeFrom (label : List Nat) (code position bias : Nat) :
    Nat → List Char → Option (List Nat)
  | _, [] => some label
  | 0, _ => none
  | fuel + 1, chars => do
    let (delta, rest) ← decodeNumber bias 1 1 chars
    let count := label.length + 1
    let place := position + delta
    let next := code + place / count
    if 0x10FFFF < next then none
    else
      let index := place % count
      decodeFrom (label.insertIdx index next) next (index + 1) (adapt delta count (position == 0))
        fuel rest

/-- The ASCII characters before the last hyphen, if there are any, and the digits after it. -/
def cutLastHyphen (chars : List Char) : List Char × List Char :=
  let digits := (chars.reverse.takeWhile (· != '-')).reverse
  let basic := chars.take (chars.length - digits.length - 1)
  if basic.isEmpty then ([], chars) else (basic, digits)

/-- The label of an ASCII form. -/
def decode? (chars : List Char) : Option (List Char) := do
  let (basic, digits) := cutLastHyphen chars
  let codes ← decodeFrom (basic.map Char.toNat) 128 0 72 digits.length digits
  if codes.all (fun code => code.isValidChar) then some (codes.map Char.ofNat) else none

end ClusterClient.Punycode
