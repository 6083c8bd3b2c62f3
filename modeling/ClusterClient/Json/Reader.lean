import ClusterClient.Json.Tree
import ClusterClient.Text.Percent

namespace ClusterClient.Json

/-- One item between the quotes of a text: a character, or a UTF-16 unit written as `\u` and four
hexadecimal digits. -/
inductive Unit16 where
  | char (c : Char)
  | unit (code : Nat)
  deriving DecidableEq, Repr

/-- The characters of a text's items. A leading surrogate needs a trailing one right after it. -/
def decodeUnits : List Unit16 → Option (List Char)
  | [] => some []
  | .char c :: rest => (decodeUnits rest).map (c :: ·)
  | .unit high :: .unit low :: rest =>
    if 0xD800 ≤ high && high ≤ 0xDBFF then
      if 0xDC00 ≤ low && low ≤ 0xDFFF then
        (decodeUnits rest).map
          (Char.ofNat ((high - 0xD800) * 0x400 + (low - 0xDC00) + 0x10000) :: ·)
      else none
    else if 0xDC00 ≤ high && high ≤ 0xDFFF then none
    else (decodeUnits (.unit low :: rest)).map (Char.ofNat high :: ·)
  | .unit code :: rest =>
    if 0xD800 ≤ code && code ≤ 0xDFFF then none
    else (decodeUnits rest).map (Char.ofNat code :: ·)

/-- What a backslash and one character stand for. -/
def simpleEscape? : Char → Option Char
  | '"' => some '"'
  | '\\' => some '\\'
  | '/' => some '/'
  | 'b' => some '\x08'
  | 'f' => some '\x0c'
  | 'n' => some '\n'
  | 'r' => some '\r'
  | 't' => some '\t'
  | _ => none

def hexUnit? (a b c d : Char) : Option Nat := do
  let a ← Percent.hexValue? a
  let b ← Percent.hexValue? b
  let c ← Percent.hexValue? c
  let d ← Percent.hexValue? d
  some (((16 * a + b) * 16 + c) * 16 + d)

/-- Read a text up to its closing quote. Control characters have to be escaped. -/
def readUnits : List Char → Option (List Unit16 × List Char)
  | [] => none
  | '"' :: rest => some ([], rest)
  | '\\' :: 'u' :: a :: b :: c :: d :: rest => do
    let code ← hexUnit? a b c d
    let (units, after) ← readUnits rest
    some (.unit code :: units, after)
  | '\\' :: escape :: rest => do
    let c ← simpleEscape? escape
    let (units, after) ← readUnits rest
    some (.char c :: units, after)
  | c :: rest =>
    if c.toNat < 0x20 || c = '\\' then none
    else do
      let (units, after) ← readUnits rest
      some (.char c :: units, after)

/-- A text's value, if it has one, and what follows its closing quote. -/
def readText (chars : List Char) : Option (Option String × List Char) :=
  (readUnits chars).map fun (units, rest) => ((decodeUnits units).map String.ofList, rest)

def digitsOf (chars : List Char) : List Nat :=
  (chars.takeWhile Char.isDigit).map fun c => c.toNat - 48

def afterDigits (chars : List Char) : List Char := chars.dropWhile Char.isDigit

/-- The digits after a point, at least one, if there is a point. -/
def readFraction : List Char → Option (List Nat × List Char)
  | '.' :: rest => if digitsOf rest = [] then none else some (digitsOf rest, afterDigits rest)
  | chars => some ([], chars)

/-- An exponent mark, a sign that may be missing, and at least one digit. -/
def readExponent : List Char → Option (Option (Bool × List Nat) × List Char)
  | mark :: rest =>
    if mark = 'e' || mark = 'E' then
      let (down, digits) := match rest with
        | '-' :: digits => (true, digits)
        | '+' :: digits => (false, digits)
        | digits => (false, digits)
      if digitsOf digits = [] then none
      else some (some (down, digitsOf digits), afterDigits digits)
    else some (none, mark :: rest)
  | [] => some (none, [])

/-- Read a numeral without its sign. Only zero starts with a zero. -/
def readNumeral (negative : Bool) (chars : List Char) : Option (Numeral × List Char) := do
  let (whole, rest) ← match chars with
    | '0' :: rest => some ([0], rest)
    | _ => if digitsOf chars = [] then none else some (digitsOf chars, afterDigits chars)
  let (fraction, rest) ← readFraction rest
  let (exponent, rest) ← readExponent rest
  some (⟨negative, whole, fraction, exponent⟩, rest)

def isBlank (c : Char) : Bool := c == ' ' || c == '\n' || c == '\t' || c == '\r'

def skipBlank (chars : List Char) : List Char := chars.dropWhile isBlank

def numberTree (read : Option (Numeral × List Char)) : Option (Tree × List Char) :=
  read.map fun (numeral, rest) => (.number numeral.number?, rest)

mutual

/-- Read one value. The fuel bounds the calls below this one. -/
def readTree : Nat → List Char → Option (Tree × List Char)
  | 0, _ => none
  | fuel + 1, chars =>
    match skipBlank chars with
    | 'n' :: 'u' :: 'l' :: 'l' :: rest => some (.null, rest)
    | 't' :: 'r' :: 'u' :: 'e' :: rest => some (.bool true, rest)
    | 'f' :: 'a' :: 'l' :: 's' :: 'e' :: rest => some (.bool false, rest)
    | '"' :: rest => (readText rest).map fun (value, rest) => (.text value, rest)
    | '[' :: rest =>
      match skipBlank rest with
      | ']' :: rest => some (.list [], rest)
      | rest => (readItems fuel rest).map fun (items, rest) => (.list items, rest)
    | '{' :: rest =>
      match skipBlank rest with
      | '}' :: rest => some (.object [], rest)
      | rest => (readMembers fuel rest).map fun (fields, rest) => (.object fields, rest)
    | '-' :: rest => numberTree (readNumeral true rest)
    | rest => numberTree (readNumeral false rest)

/-- Read items up to the closing bracket, at least one. -/
def readItems : Nat → List Char → Option (List Tree × List Char)
  | 0, _ => none
  | fuel + 1, chars => do
    let (item, rest) ← readTree fuel chars
    match skipBlank rest with
    | ',' :: rest => do
      let (items, rest) ← readItems fuel rest
      some (item :: items, rest)
    | ']' :: rest => some ([item], rest)
    | _ => none

/-- Read named members up to the closing brace, at least one. -/
def readMembers : Nat → List Char → Option (List (Option String × Tree) × List Char)
  | 0, _ => none
  | fuel + 1, chars =>
    match skipBlank chars with
    | '"' :: rest => do
      let (name, rest) ← readText rest
      match skipBlank rest with
      | ':' :: rest => do
        let (item, rest) ← readTree fuel rest
        match skipBlank rest with
        | ',' :: rest => do
          let (members, rest) ← readMembers fuel rest
          some ((name, item) :: members, rest)
        | '}' :: rest => some ([(name, item)], rest)
        | _ => none
      | _ => none
    | _ => none

end

/-- The tree of a text that holds one value and nothing else. -/
def Tree.ofText? (text : String) : Option Tree :=
  let chars := text.toList
  match readTree (2 * chars.length + 2) chars with
  | some (tree, rest) => if skipBlank rest = [] then some tree else none
  | none => none

/-- How deep lists and objects of a document may nest. -/
def depthLimit : Nat := 127

/-- Read a document. -/
def ofText? (text : String) : Option Json :=
  (Tree.ofText? text).bind (·.document? depthLimit)

end ClusterClient.Json
