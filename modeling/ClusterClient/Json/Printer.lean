import ClusterClient.Json
import ClusterClient.Binary64.Shortest

namespace ClusterClient.Json

/-- A hexadecimal digit, lower-case. -/
def lowerHexDigit (n : Nat) : Char :=
  if n < 10 then Char.ofNat (48 + n) else Char.ofNat (87 + n)

/-- A character inside quotes: only quotes, backslashes and control characters are escaped. -/
def escape (c : Char) : List Char :=
  match c with
  | '"' => ['\\', '"']
  | '\\' => ['\\', '\\']
  | '\x08' => ['\\', 'b']
  | '\x0c' => ['\\', 'f']
  | '\n' => ['\\', 'n']
  | '\r' => ['\\', 'r']
  | '\t' => ['\\', 't']
  | c =>
    if c.toNat < 0x20 then
      ['\\', 'u', '0', '0', lowerHexDigit (c.toNat / 16), lowerHexDigit (c.toNat % 16)]
    else [c]

def quoted (text : String) : List Char :=
  '"' :: text.toList.flatMap escape ++ ['"']

def Number.chars : Number → List Char
  | .integer value => (toString value).toList
  | .double value => value.text

mutual

/-- A document on one line without blanks. -/
def chars : Json → List Char
  | .null => ['n', 'u', 'l', 'l']
  | .bool true => ['t', 'r', 'u', 'e']
  | .bool false => ['f', 'a', 'l', 's', 'e']
  | .number value => value.chars
  | .text value => quoted value
  | .list [] => ['[', ']']
  | .list (item :: rest) => '[' :: (item.chars ++ itemChars rest)
  | .object [] => ['{', '}']
  | .object ((name, item) :: rest) =>
    '{' :: (quoted name ++ ':' :: (item.chars ++ memberChars rest))

/-- The items after the first one, and the bracket. -/
def itemChars : List Json → List Char
  | [] => [']']
  | item :: rest => ',' :: (item.chars ++ itemChars rest)

/-- The members after the first one, and the brace. -/
def memberChars : List (String × Json) → List Char
  | [] => ['}']
  | (name, item) :: rest => ',' :: (quoted name ++ ':' :: (item.chars ++ memberChars rest))

end

def compact (json : Json) : String := String.ofList json.chars

/-- A new line, indented by two blanks a level. -/
def newLine (level : Nat) : List Char := '\n' :: List.replicate (2 * level) ' '

mutual

/-- A document with a line for every item and member, inside `level` others. -/
def prettyChars (level : Nat) : Json → List Char
  | .list (item :: rest) =>
    '[' :: (newLine (level + 1) ++ prettyChars (level + 1) item ++ prettyItems level rest)
  | .object ((name, item) :: rest) =>
    '{' :: (newLine (level + 1) ++ quoted name ++ ':' :: ' ' :: prettyChars (level + 1) item
      ++ prettyMembers level rest)
  | .list [] => ['[', ']']
  | .object [] => ['{', '}']
  | .null => ['n', 'u', 'l', 'l']
  | .bool true => ['t', 'r', 'u', 'e']
  | .bool false => ['f', 'a', 'l', 's', 'e']
  | .number value => value.chars
  | .text value => quoted value

def prettyItems (level : Nat) : List Json → List Char
  | [] => newLine level ++ [']']
  | item :: rest =>
    ',' :: (newLine (level + 1) ++ prettyChars (level + 1) item ++ prettyItems level rest)

def prettyMembers (level : Nat) : List (String × Json) → List Char
  | [] => newLine level ++ ['}']
  | (name, item) :: rest =>
    ',' :: (newLine (level + 1) ++ quoted name ++ ':' :: ' ' :: prettyChars (level + 1) item
      ++ prettyMembers level rest)

end

def pretty (json : Json) : String := String.ofList (json.prettyChars 0)

end ClusterClient.Json
