import ClusterClient.Yaml.Scalar

namespace ClusterClient.Yaml

/-- A mark or a scalar of a document. -/
inductive Token where
  | version (major minor : Nat)
  /-- A shorthand for the start of tags. -/
  | tagHandle (handle start : String)
  | documentStart
  | documentEnd
  | blockSequenceStart
  | blockMappingStart
  | blockEnd
  | flowSequenceStart
  | flowSequenceEnd
  | flowMappingStart
  | flowMappingEnd
  | blockEntry
  | flowEntry
  | key
  | value
  | alias (name : String)
  | anchor (name : String)
  | tag (handle suffix : String)
  | scalar (text : String) (style : Style)
  deriving DecidableEq, Repr

/-- A place where a mapping may turn out to start, since a colon may follow on the same line. -/
structure PossibleKey where
  /-- How many tokens stand before it. -/
  tokens : Nat
  place : Place
  /-- Nothing but a key can stand there. -/
  required : Bool

/-- What is known between two tokens. -/
structure Lexer where
  tokens : Array Token := #[]
  /-- The indentation of the innermost block, `-1` outside of all. -/
  indent : Int := -1
  /-- The indentations of the blocks around it. -/
  outer : List Int := []
  /-- Whether a key may start here. -/
  keyAllowed : Bool := true
  /-- The possible key outside of all brackets and inside each pair of them, innermost first. -/
  keys : List (Option PossibleKey) := [none]

namespace Lexer

def inFlow (lexer : Lexer) : Bool := 1 < lexer.keys.length

def emit (lexer : Lexer) (token : Token) : Lexer := { lexer with tokens := lexer.tokens.push token }

def emitAt (lexer : Lexer) (position : Nat) (token : Token) : Lexer :=
  { lexer with tokens := (lexer.tokens.toList.insertIdx position token).toArray }

/-- Close blocks that are indented deeper than a column. -/
def closeBlocks (lexer : Lexer) (column : Int) : Lexer :=
  if lexer.inFlow then lexer
  else
    let all := lexer.indent :: lexer.outer
    let closed := (all.takeWhile (column < ·)).length
    match all.drop closed with
    | indent :: outer =>
      { lexer with indent, outer, tokens := lexer.tokens ++ Array.replicate closed .blockEnd }
    | [] => lexer

/-- Open a block at a column that is deeper than the innermost one, before a token or at the end. -/
def openBlock (lexer : Lexer) (column : Nat) (position : Nat) (start : Token) : Lexer :=
  if !lexer.inFlow && lexer.indent < column then
    { lexer.emitAt position start with indent := column, outer := lexer.indent :: lexer.outer }
  else lexer

/-- Give up the possible key of the innermost level; none if only a key can stand there. -/
def dropKey (lexer : Lexer) : Option Lexer :=
  match lexer.keys with
  | some key :: rest => if key.required then none else some { lexer with keys := none :: rest }
  | _ => some lexer

/-- Note that a key may start at a place. -/
def noteKey (lexer : Lexer) (place : Place) : Option Lexer :=
  if lexer.keyAllowed then do
    let required := !lexer.inFlow && lexer.indent == place.column
    let lexer ← lexer.dropKey
    some { lexer with keys := some ⟨lexer.tokens.size, place, required⟩ :: lexer.keys.tail }
  else some lexer

/-- Give up keys whose colon would be on a later line or more than 1024 characters away. -/
def dropStaleKeys (lexer : Lexer) (place : Place) : Option Lexer := do
  let keys ← lexer.keys.mapM fun key =>
    match key with
    | some possible =>
      if possible.place.line < place.line || possible.place.index + 1024 < place.index then
        if possible.required then none else some none
      else some (some possible)
    | none => some none
  some { lexer with keys }

/-- Pass blanks, comments and ends of lines. Outside of brackets a key may start on a new line, and
a tab may not stand where a key may. -/
def skipSpace (lexer : Lexer) (inComment : Bool) : Input → Lexer × Input
  | [] => (lexer, [])
  | place :: rest =>
    let c := place.char
    if inComment && !endsLine c then skipSpace lexer true rest
    else if c == ' ' || (c == '\t' && (lexer.inFlow || !lexer.keyAllowed)) then
      skipSpace lexer false rest
    else if c == '#' then skipSpace lexer true rest
    else if isBreak c then
      skipSpace { lexer with keyAllowed := lexer.keyAllowed || !lexer.inFlow } false rest
    else (lexer, place :: rest)

/-- Start of a document, end of one, or a directive: nothing goes on across it. -/
def leaveDocument (lexer : Lexer) : Option Lexer :=
  (lexer.closeBlocks (-1)).dropKey.map fun lexer => { lexer with keyAllowed := false }

def openFlow (lexer : Lexer) (place : Place) (start : Token) : Option Lexer := do
  let lexer ← lexer.noteKey place
  some { lexer.emit start with keys := none :: lexer.keys, keyAllowed := true }

def closeFlow (lexer : Lexer) (finish : Token) : Option Lexer := do
  let lexer ← lexer.dropKey
  some { lexer.emit finish with
    keys := if lexer.inFlow then lexer.keys.tail else lexer.keys, keyAllowed := false }

def addFlowEntry (lexer : Lexer) : Option Lexer := do
  let lexer ← lexer.dropKey
  some { lexer.emit .flowEntry with keyAllowed := true }

/-- Open a block for a mark that stands where a key may, outside of brackets. -/
def openBlockHere (lexer : Lexer) (place : Place) (start : Token) : Option Lexer :=
  if lexer.inFlow then some lexer
  else if lexer.keyAllowed then
    some (lexer.openBlock place.column lexer.tokens.size start)
  else none

def addBlockEntry (lexer : Lexer) (place : Place) : Option Lexer := do
  let lexer ← (← lexer.openBlockHere place .blockSequenceStart).dropKey
  some { lexer.emit .blockEntry with keyAllowed := true }

def addKey (lexer : Lexer) (place : Place) : Option Lexer := do
  let lexer ← (← lexer.openBlockHere place .blockMappingStart).dropKey
  some { lexer.emit .key with keyAllowed := !lexer.inFlow }

/-- A colon makes a key of what may be one; else it stands for a value with an empty key. -/
def addValue (lexer : Lexer) (place : Place) : Option Lexer :=
  match lexer.keys with
  | some key :: rest =>
    let keyed := lexer.emitAt key.tokens .key
    let opened := keyed.openBlock key.place.column key.tokens .blockMappingStart
    some { opened.emit .value with keys := none :: rest, keyAllowed := false }
  | _ => do
    let lexer ← lexer.openBlockHere place .blockMappingStart
    some { lexer.emit .value with keyAllowed := !lexer.inFlow }

/-- A scalar or a property of a node, which may start a key. -/
def addKeyed (lexer : Lexer) (place : Place) (token : Token) : Option Lexer := do
  let lexer ← lexer.noteKey place
  some { lexer.emit token with keyAllowed := false }

end Lexer

/-- The digits of a version number, nine at most. -/
def readVersionNumber (input : Input) : Option (Nat × Input) :=
  let (digits, rest) := spanChars Char.isDigit input
  if digits.isEmpty || 9 < digits.length then none
  else some (digits.foldl (fun n c => 10 * n + (c.toNat - 48)) 0, rest)

/-- The name of a handle between exclamation marks. The second mark may be missing outside of
directives, and after an empty name. -/
def readTagHandle (inDirective : Bool) (input : Input) : Option (List Char × Input) :=
  if charAt input 0 != '!' then none
  else
    let (name, rest) := spanChars isNameChar input.tail
    if charAt rest 0 == '!' then some ('!' :: name ++ ['!'], rest.tail)
    else if inDirective && !name.isEmpty then none
    else some ('!' :: name, rest)

/-- Characters of a tag. Brackets and commas only where the tag is spelled out. -/
def isTagChar (spelledOut : Bool) (c : Char) : Bool :=
  isNameChar c || ";/?:@&=+$.%!~*'()".toList.contains c || (spelledOut && ",[]".toList.contains c)

/-- Undo the escapes of a tag; none if one of them is no text. -/
def unescapeTag? (chars : List Char) : Option (List Char) :=
  let bytes := Text.utf8 (String.ofList chars)
  let escapes := chars.zip (chars.drop 1 |>.zip (chars.drop 2))
  let complete := (chars.filter (· == '%')).length
    == (escapes.filter fun (mark, high, low) =>
      mark == '%' && (Percent.hexValue? high).isSome && (Percent.hexValue? low).isSome).length
  if complete then (Text.ofUtf8? (Percent.decodeBytes bytes)).map String.toList else none

/-- The characters of a tag after `start`; at least one of both. -/
def readTagText (spelledOut : Bool) (start : List Char) (input : Input) :
    Option (List Char × Input) := do
  let (chars, rest) := spanChars (isTagChar spelledOut) input
  if start.isEmpty && chars.isEmpty then none
  else some (start.drop 1 ++ (← unescapeTag? chars), rest)

/-- Read a tag: spelled out, with a handle, or local. -/
def readTag (inFlow : Bool) (input : Input) : Option (Token × Input) := do
  let (handle, suffix, rest) ←
    if charAt input 1 == '<' then do
      let (suffix, rest) ← readTagText true [] (input.drop 2)
      if charAt rest 0 == '>' then some ([], suffix, rest.tail) else none
    else do
      let (handle, rest) ← readTagHandle false input
      if 1 < handle.length && handle.getLast? == some '!' then do
        let (suffix, rest) ← readTagText false [] rest
        some (handle, suffix, rest)
      else do
        let (suffix, rest) ← readTagText false handle rest
        if suffix.isEmpty then some ([], ['!'], rest) else some (['!'], suffix, rest)
  let next := charAt rest 0
  if endsWord next || (inFlow && next == ',') then
    some (.tag (String.ofList handle) (String.ofList suffix), rest)
  else none

/-- Read a directive after its percent sign. -/
def readDirective (input : Input) : Option (Token × Input) := do
  let (name, rest) := spanChars isNameChar input
  if !endsWord (charAt rest 0) then none
  let rest := rest.dropWhile fun place => isBlank place.char
  let (token, rest) ←
    if name = ['Y', 'A', 'M', 'L'] then do
      let (major, rest) ← readVersionNumber rest
      if charAt rest 0 != '.' then none
      let (minor, rest) ← readVersionNumber rest.tail
      some (Token.version major minor, rest)
    else if name = ['T', 'A', 'G'] then do
      let (handle, rest) ← readTagHandle true rest
      if !isBlank (charAt rest 0) then none
      let rest := rest.dropWhile fun place => isBlank place.char
      let (start, rest) ← readTagText true [] rest
      if !endsWord (charAt rest 0) then none
      some (.tagHandle (String.ofList handle) (String.ofList start), rest)
    else none
  some (token, ← skipLineEnd? rest)

/-- Read the name of an anchor or alias after its mark. -/
def readName (input : Input) : Option (String × Input) :=
  let (name, rest) := spanChars isNameChar input
  let next := charAt rest 0
  if !name.isEmpty && (endsWord next || "?:,]\x7d%@\x60".toList.contains next) then
    some (String.ofList name, rest)
  else none

/-- Whether a plain scalar may start with a character that another one follows. -/
def startsPlain (inFlow : Bool) (c next : Char) : Bool :=
  !(endsWord c || "-?:,[]\x7b\x7d#&*!|>'\"%@\x60".toList.contains c)
    || (c == '-' && !isBlank next)
    || (!inFlow && (c == '?' || c == ':') && !endsWord next)

namespace Lexer

/-- A finished scalar with its style, and what follows it. -/
def addScalar (lexer : Lexer) (place : Place) (style : Style) (text : List Char) (rest : Input) :
    Option (Lexer × Input) := do
  some (← lexer.addKeyed place (.scalar (String.ofList text) style), rest)

/-- Block scalars are no keys. A key may start after one. -/
def addBlockScalar (lexer : Lexer) (folded : Bool) (rest : Input) : Option (Lexer × Input) := do
  let lexer ← lexer.dropKey
  let (text, rest) ← readBlock folded lexer.indent rest
  let style := if folded then .folded else .literal
  some ({ lexer.emit (.scalar (String.ofList text) style) with keyAllowed := true }, rest)

/-- A key may start after a plain scalar that has run over the end of its line. -/
def addPlain (lexer : Lexer) (place : Place) (rest : Input) : Option (Lexer × Input) := do
  let (state, after) ← readPlain lexer.inFlow (lexer.indent + 1) {} (place :: rest)
  let lexer ← lexer.addKeyed place (.scalar (String.ofList state.text.reverse) .plain)
  some ({ lexer with keyAllowed := state.broken }, after)

/-- Read the token at a place that is neither blank nor the end. -/
def readToken (lexer : Lexer) (place : Place) (rest : Input) : Option (Lexer × Input) :=
  let input := place :: rest
  let c := place.char
  let next := charAt rest 0
  let step (lexer? : Option Lexer) : Option (Lexer × Input) := lexer?.map (·, rest)
  if place.column == 0 && c == '%' then do
    let (token, rest) ← readDirective rest
    some ((← lexer.leaveDocument).emit token, rest)
  else if atMarker '-' input then
    lexer.leaveDocument.map fun lexer => (lexer.emit .documentStart, input.drop 3)
  else if atMarker '.' input then
    lexer.leaveDocument.map fun lexer => (lexer.emit .documentEnd, input.drop 3)
  else if c == '[' then step (lexer.openFlow place .flowSequenceStart)
  else if c == '\x7b' then step (lexer.openFlow place .flowMappingStart)
  else if c == ']' then step (lexer.closeFlow .flowSequenceEnd)
  else if c == '\x7d' then step (lexer.closeFlow .flowMappingEnd)
  else if c == ',' then step lexer.addFlowEntry
  else if c == '-' && endsWord next then step (lexer.addBlockEntry place)
  else if c == '?' && (lexer.inFlow || endsWord next) then step (lexer.addKey place)
  else if c == ':' && (lexer.inFlow || endsWord next) then step (lexer.addValue place)
  else if c == '*' then do
    let (name, rest) ← readName rest
    some (← lexer.addKeyed place (.alias name), rest)
  else if c == '&' then do
    let (name, rest) ← readName rest
    some (← lexer.addKeyed place (.anchor name), rest)
  else if c == '!' then do
    let (token, rest) ← readTag lexer.inFlow input
    some (← lexer.addKeyed place token, rest)
  else if c == '|' && !lexer.inFlow then lexer.addBlockScalar false rest
  else if c == '>' && !lexer.inFlow then lexer.addBlockScalar true rest
  else if c == '\'' then do
    let (text, rest) ← readSingleQuoted {} rest
    lexer.addScalar place .singleQuoted text rest
  else if c == '"' then do
    let (text, rest) ← readDoubleQuoted .text {} rest
    lexer.addScalar place .doubleQuoted text rest
  else if startsPlain lexer.inFlow c next then lexer.addPlain place rest
  else none

/-- Read tokens up to the end. The fuel bounds their number. -/
def readAll : Nat → Lexer → Input → Option (Array Token)
  | 0, _, _ => none
  | fuel + 1, lexer, input =>
    let (lexer, input) := lexer.skipSpace false input
    match input with
    | [] => none
    | place :: rest => do
      let lexer := (← lexer.dropStaleKeys place).closeBlocks place.column
      if isEnd place.char then
        (lexer.closeBlocks (-1)).dropKey.map (·.tokens)
      else
        let (lexer, rest) ← lexer.readToken place rest
        readAll fuel lexer rest

end Lexer

/-- The tokens of a document; none if it is not well-formed. -/
def tokens? (text : String) : Option (List Token) := do
  let input ← inputOf? text
  (← Lexer.readAll (input.length + 1) {} input).toList

end ClusterClient.Yaml
