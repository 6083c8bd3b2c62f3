import ClusterClient.Text.Percent
import ClusterClient.Yaml.Plain
import ClusterClient.Yaml.Scalar

namespace ClusterClient.Yaml

/-- Characters that stand for themselves in a written document. Those beyond the basic plane do
not. -/
def isPrintable (c : Char) : Bool :=
  let code := c.toNat
  c == '\n' || (0x20 ≤ code && code ≤ 0x7E) || (0xA0 ≤ code && code ≤ 0xFFFD && code != 0xFEFF)

/-- Whether two neighbours in a text fit a condition. -/
def hasPair (fits : Char → Char → Bool) (chars : List Char) : Bool :=
  (chars.zip (chars.drop 1)).any fun (c, next) => fits c next

/-- A mark that means something at the start of a text, before a certain character. -/
def isLeadingMark (c next : Char) : Bool :=
  "#,[]\x7b\x7d&*!|>'\"%@\x60".toList.contains c
    || ((c == '?' || c == ':' || c == '-') && endsWord next)

/-- Whether a text holds a mark that ends a plain scalar or makes something else of it. -/
def hasMark (chars : List Char) : Bool :=
  let ended := chars ++ ['\x00']
  isLeadingMark (ended.head?.getD '\x00') ((ended[1]?).getD '\x00')
    || hasPair (fun c next => c == ':' && endsWord next) (ended.drop 1)
    || hasPair (fun c next => endsWord c && next == '#') chars
    || chars.take 3 == ['-', '-', '-'] || chars.take 3 == ['.', '.', '.']

/-- Whether a text begins or ends with a character of some kind. -/
def isEdged (fits : Char → Bool) (chars : List Char) : Bool :=
  chars.head?.any fits || chars.getLast?.any fits

/-- Whether a text needs escapes: for a character that cannot stand for itself, or for a blank
before a break, which would be lost. -/
def needsEscapes (chars : List Char) : Bool :=
  chars.any (!isPrintable ·) || hasPair (fun c next => c == ' ' && isBreak next) chars

/-- The style of a text that is to read back as that text. Only a text with line feeds is written
as a block. -/
def styleOf (text : String) : Style :=
  let chars := text.toList
  if needsEscapes chars then .doubleQuoted
  else if chars.contains '\n' then
    if chars.getLast? == some ' ' then .doubleQuoted else .literal
  else if hasPair (fun c next => isBreak c && next == ' ') chars then .doubleQuoted
  else if isAmbiguous text || hasMark chars || chars.any isBreak || isEdged (· == ' ') chars then
    .singleQuoted
  else .plain

/-- A character between double quotes. -/
def escape (c : Char) : List Char :=
  let hex (digits : Nat) : List Char :=
    (List.range digits).reverse.map fun place => Percent.hexDigit (c.toNat / Nat.pow 16 place % 16)
  if isPrintable c && !isBreak c && c != '"' && c != '\\' then [c]
  else match c with
    | '\x00' => ['\\', '0']
    | '\x07' => ['\\', 'a']
    | '\x08' => ['\\', 'b']
    | '\t' => ['\\', 't']
    | '\n' => ['\\', 'n']
    | '\x0b' => ['\\', 'v']
    | '\x0c' => ['\\', 'f']
    | '\r' => ['\\', 'r']
    | '\x1b' => ['\\', 'e']
    | '"' => ['\\', '"']
    | '\\' => ['\\', '\\']
    | '\u0085' => ['\\', 'N']
    | '\u2028' => ['\\', 'L']
    | '\u2029' => ['\\', 'P']
    | _ =>
      if c.toNat ≤ 0xFF then '\\' :: 'x' :: hex 2
      else if c.toNat ≤ 0xFFFF then '\\' :: 'u' :: hex 4
      else '\\' :: 'U' :: hex 8

/-- Lines with two blanks before each one that is not empty. `start` holds at the start of a
line. -/
def indented (start : Bool) : List Char → List Char
  | [] => []
  | c :: rest =>
    if isBreak c then c :: indented true rest
    else if start then ' ' :: ' ' :: c :: indented false rest
    else c :: indented false rest

/-- A text between single quotes, further lines indented. -/
def singleQuoted (chars : List Char) : List Char :=
  let body := indented false (chars.flatMap fun c => if c == '\'' then ['\'', '\''] else [c])
  let close := if chars.getLast?.any isBreak then [' ', ' ', '\''] else ['\'']
  '\'' :: body ++ close

/-- The marks of a block: an indentation if it starts with a blank or a break, and how it ends. -/
def blockHeader (chars : List Char) : List Char :=
  let indent := if chars.head?.any fun c => c == ' ' || isBreak c then ['2'] else []
  let chomping := match chars.reverse with
    | [] => ['-']
    | [last] => if isBreak last then ['+'] else ['-']
    | last :: before :: _ => if !isBreak last then ['-'] else if isBreak before then ['+'] else []
  '|' :: indent ++ chomping

/-- A text as the value of a key in the outermost block, with the end of its line. -/
def written (text : String) : List Char :=
  let chars := text.toList
  match styleOf text with
  | .doubleQuoted => '"' :: chars.flatMap escape ++ ['"', '\n']
  | .singleQuoted => singleQuoted chars ++ ['\n']
  | .literal =>
    blockHeader chars ++ '\n' :: indented true chars
      ++ (if chars.getLast?.any isBreak then [] else ['\n'])
  | _ => chars ++ ['\n']

end ClusterClient.Yaml
