namespace ClusterClient.Yaml

/-- A character of a document and where it stands. -/
structure Place where
  char : Char
  index : Nat
  line : Nat
  column : Nat
  deriving DecidableEq, Repr

/-- What is left of a document. It ends with one NUL, which no document contains. -/
abbrev Input := List Place

def isBreak (c : Char) : Bool := c == '\n' || c == '\u2028' || c == '\u2029'

def isBlank (c : Char) : Bool := c == ' ' || c == '\t'

def isEnd (c : Char) : Bool := c == '\x00'

/-- A line ends at a break or with the document. -/
def endsLine (c : Char) : Bool := isBreak c || isEnd c

/-- A word ends at a blank or with its line. -/
def endsWord (c : Char) : Bool := isBlank c || endsLine c

/-- Letters, digits, hyphens and underscores, as in the name of an anchor. -/
def isNameChar (c : Char) : Bool := c.isAlphanum || c == '_' || c == '-'

/-- Characters that a document may contain. -/
def isAllowed (c : Char) : Bool :=
  let code := c.toNat
  code == 0x09 || code == 0x0A || code == 0x0D || (0x20 ≤ code && code ≤ 0x7E) || code == 0x85
    || (0xA0 ≤ code && code ≤ 0xFFFD) || 0x10000 ≤ code

/-- A text in which every line ends with a line feed, or with a separator of lines or paragraphs. -/
def normalizeBreaks : List Char → List Char
  | '\r' :: '\n' :: rest => '\n' :: normalizeBreaks rest
  | '\r' :: rest => '\n' :: normalizeBreaks rest
  | '\u0085' :: rest => '\n' :: normalizeBreaks rest
  | c :: rest => c :: normalizeBreaks rest
  | [] => []

/-- Places from a given one on, with a NUL at the end. -/
def placesFrom (index line column : Nat) : List Char → Input
  | [] => [⟨'\x00', index, line, column⟩]
  | c :: rest =>
    ⟨c, index, line, column⟩ ::
      (if isBreak c then placesFrom (index + 1) (line + 1) 0 rest
      else placesFrom (index + 1) line (column + 1) rest)

/-- The places of a document, a byte order mark aside; none if it holds a forbidden character. -/
def inputOf? (text : String) : Option Input :=
  if text.toList.all isAllowed then
    let chars := match text.toList with
      | '\uFEFF' :: rest => rest
      | all => all
    some (placesFrom 0 0 0 (normalizeBreaks chars))
  else none

/-- The character a number of places ahead. -/
def charAt (input : Input) (ahead : Nat) : Char :=
  (input[ahead]?.map (·.char)).getD '\x00'

def columnOf (input : Input) : Nat := (input.head?.map (·.column)).getD 0

/-- Whether three marks start a line here and make a word. -/
def atMarker (mark : Char) (input : Input) : Bool :=
  columnOf input == 0 && charAt input 0 == mark && charAt input 1 == mark && charAt input 2 == mark
    && endsWord (charAt input 3)

/-- Whether a document starts or ends on this line. -/
def atDocumentMarker (input : Input) : Bool := atMarker '-' input || atMarker '.' input

/-- The characters up to one that does not fit, and the rest. -/
def spanChars (fits : Char → Bool) (input : Input) : List Char × Input :=
  ((input.takeWhile fun place => fits place.char).map (·.char),
    input.dropWhile fun place => fits place.char)

/-- Pass a comment and the end of its line; none if something else stands there. -/
def skipLineEnd? (input : Input) : Option Input :=
  let input := input.dropWhile fun place => isBlank place.char
  let input :=
    if charAt input 0 == '#' then input.dropWhile fun place => !endsLine place.char else input
  if isBreak (charAt input 0) then some input.tail
  else if isEnd (charAt input 0) then some input
  else none

end ClusterClient.Yaml
