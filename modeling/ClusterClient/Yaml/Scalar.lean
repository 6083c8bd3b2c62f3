import ClusterClient.Text.Percent
import ClusterClient.Yaml.Place

namespace ClusterClient.Yaml

/-- How a scalar is written. -/
inductive Style where
  | plain
  | singleQuoted
  | doubleQuoted
  | literal
  | folded
  deriving DecidableEq, Repr

/-- A text that may be continued on further lines. Its characters are kept last first. -/
structure Folding where
  text : List Char := []
  /-- Blanks since the last word, if no line has ended since. -/
  blanks : List Char := []
  /-- Whether a line has ended since the last word. -/
  broken : Bool := false
  /-- The first break since the last word; none if it was escaped. -/
  firstBreak : Option Char := none
  /-- The breaks after it. -/
  moreBreaks : List Char := []

namespace Folding

/-- Note a blank or a break after a word. -/
def space (state : Folding) (c : Char) : Folding :=
  if isBreak c then
    if state.broken then { state with moreBreaks := c :: state.moreBreaks }
    else { state with broken := true, blanks := [], firstBreak := some c }
  else if state.broken then state
  else { state with blanks := c :: state.blanks }

/-- Put what stood between two words into the text. A single line feed becomes a blank, and of
several the first one goes. -/
def join (state : Folding) : Folding :=
  let between :=
    if state.broken then
      match state.firstBreak with
      | some '\n' => if state.moreBreaks = [] then [' '] else state.moreBreaks
      | some c => state.moreBreaks ++ [c]
      | none => state.moreBreaks
    else state.blanks
  { text := between ++ state.text }

def push (state : Folding) (c : Char) : Folding :=
  let joined := state.join
  { joined with text := c :: joined.text }

/-- Pass an escaped break: the words on its sides belong together. -/
def escapeBreak (state : Folding) : Folding := { state.join with broken := true }

end Folding

/-- Read a plain scalar from inside it. A line that is indented by less than `indent` does not
belong to it, and neither does a comment. -/
def readPlain (inFlow : Bool) (indent : Int) (state : Folding) :
    Input → Option (Folding × Input)
  | [] => some (state, [])
  | place :: rest =>
    let c := place.char
    let next := charAt rest 0
    if isBlank c || isBreak c then
      if state.broken && (place.column : Int) < indent && c == '\t' then none
      else
        let spaced := state.space c
        let stops := !isBlank next && !isBreak next
          && ((!inFlow && (columnOf rest : Int) < indent) || atDocumentMarker rest || next == '#')
        if stops then some (spaced, rest) else readPlain inFlow indent spaced rest
    else if isEnd c then some (state, place :: rest)
    else if inFlow && c == ':' && ",?[]\x7b\x7d".toList.contains next then none
    else if (c == ':' && endsWord next) || (inFlow && ",[]\x7b\x7d".toList.contains c) then
      some (state, place :: rest)
    else readPlain inFlow indent (state.push c) rest

/-- What comes after a part of a quoted scalar. -/
inductive QuoteMode where
  | text
  /-- After a backslash. -/
  | escape
  /-- Inside a code point, with digits still to come. -/
  | code (digits value : Nat)

/-- The meaning of a backslash and one character. -/
def simpleEscape? : Char → Option Char
  | '0' => some '\x00'
  | 'a' => some '\x07'
  | 'b' => some '\x08'
  | 't' => some '\t'
  | '\t' => some '\t'
  | 'n' => some '\n'
  | 'v' => some '\x0b'
  | 'f' => some '\x0c'
  | 'r' => some '\r'
  | 'e' => some '\x1b'
  | ' ' => some ' '
  | '"' => some '"'
  | '/' => some '/'
  | '\\' => some '\\'
  | 'N' => some '\u0085'
  | '_' => some '\u00a0'
  | 'L' => some '\u2028'
  | 'P' => some '\u2029'
  | _ => none

/-- How many digits of a code point follow a backslash and one character. -/
def codeDigits? : Char → Option Nat
  | 'x' => some 2
  | 'u' => some 4
  | 'U' => some 8
  | _ => none

/-- Read a double-quoted scalar from inside it, up to its quote. -/
def readDoubleQuoted (mode : QuoteMode) (state : Folding) : Input → Option (List Char × Input)
  | [] => none
  | place :: rest =>
    let c := place.char
    match mode with
    | .escape =>
      if isBreak c then readDoubleQuoted .text state.escapeBreak rest
      else match codeDigits? c with
        | some digits => readDoubleQuoted (.code digits 0) state rest
        | none => (simpleEscape? c).bind fun c => readDoubleQuoted .text (state.push c) rest
    | .code digits value =>
      match Percent.hexValue? c with
      | none => none
      | some digit =>
        let value := 16 * value + digit
        if 1 < digits then readDoubleQuoted (.code (digits - 1) value) state rest
        else if value.isValidChar then
          readDoubleQuoted .text (state.push (Char.ofNat value)) rest
        else none
    | .text =>
      if isBlank c || isBreak c then
        if atDocumentMarker rest then none else readDoubleQuoted .text (state.space c) rest
      else if isEnd c then none
      else if c == '"' then some (state.join.text.reverse, rest)
      else if c == '\\' then readDoubleQuoted .escape state rest
      else readDoubleQuoted .text (state.push c) rest

/-- Read a single-quoted scalar from inside it, up to its quote. Two quotes stand for one. -/
def readSingleQuoted (state : Folding) : Input → Option (List Char × Input)
  | [] => none
  | place :: rest =>
    let c := place.char
    if isBlank c || isBreak c then
      if atDocumentMarker rest then none else readSingleQuoted (state.space c) rest
    else if isEnd c then none
    else if c == '\'' then
      match rest with
      | next :: after =>
        if next.char == '\'' then readSingleQuoted (state.push '\'') after
        else some (state.join.text.reverse, rest)
      | [] => some (state.join.text.reverse, rest)
    else readSingleQuoted (state.push c) rest

/-- What happens to the breaks at the end of a block scalar. -/
inductive Chomping where
  | strip
  | clip
  | keep
  deriving DecidableEq, Repr

def chomping? : Char → Option Chomping
  | '+' => some .keep
  | '-' => some .strip
  | _ => none

/-- A digit of indentation; zero is an error. -/
def readIndicatedIndent (input : Input) : Option (Option Nat × Input) :=
  let c := charAt input 0
  if c == '0' then none
  else if c.isDigit then some (some (c.toNat - 48), input.tail)
  else some (none, input)

/-- The chomping and the indentation of a block scalar, in either order. -/
def readBlockHeader (input : Input) : Option (Chomping × Option Nat × Input) := do
  match chomping? (charAt input 0) with
  | some chomping =>
    let (indent, rest) ← readIndicatedIndent input.tail
    some (chomping, indent, rest)
  | none =>
    let (indent, rest) ← readIndicatedIndent input
    match indent, chomping? (charAt rest 0) with
    | some _, some chomping => some (chomping, indent, rest.tail)
    | _, _ => some (.clip, indent, rest)

/-- Pass indentation and empty lines. An `indent` of zero is not known yet, and any number of
blanks counts as indentation. The deepest one and the breaks come back, the last break first. -/
def skipBlockBreaks (indent deepest : Nat) (breaks : List Char) :
    Input → Option (Nat × List Char × Input)
  | [] => some (deepest, breaks, [])
  | place :: rest =>
    let inside := indent == 0 || place.column < indent
    if place.char == ' ' && inside then skipBlockBreaks indent deepest breaks rest
    else
      let deepest := max deepest place.column
      if place.char == '\t' && inside then none
      else if isBreak place.char then
        skipBlockBreaks indent deepest (place.char :: breaks) rest
      else some (deepest, breaks, place :: rest)

/-- A block scalar in the making. Its characters and breaks are kept last first. -/
structure BlockText where
  text : List Char := []
  /-- The break after the last line. -/
  lineBreak : List Char := []
  /-- The breaks of the empty lines after it. -/
  moreBreaks : List Char
  /-- Whether the last line started with a blank. -/
  startsBlank : Bool := false

/-- Add a line. A folded scalar joins lines that do not start with a blank. -/
def BlockText.addLine (folded : Bool) (state : BlockText) (line lineBreak : List Char) :
    BlockText :=
  let startsBlank := line.head?.any isBlank
  let between :=
    if folded && state.lineBreak == ['\n'] && !state.startsBlank && !startsBlank then
      if state.moreBreaks = [] then [' '] else state.moreBreaks
    else state.moreBreaks ++ state.lineBreak
  { text := line.reverse ++ between ++ state.text, lineBreak, moreBreaks := [], startsBlank }

/-- Read the lines of a block scalar. The fuel bounds their number. -/
def readBlockLines (folded : Bool) (indent : Nat) :
    Nat → BlockText → Input → Option (BlockText × Input)
  | 0, state, input => some (state, input)
  | fuel + 1, state, input =>
    if columnOf input != indent || isEnd (charAt input 0) then some (state, input)
    else do
      let (line, rest) := spanChars (!endsLine ·) input
      let (lineBreak, rest) :=
        if isBreak (charAt rest 0) then ([charAt rest 0], rest.tail) else ([], rest)
      let (_, breaks, rest) ← skipBlockBreaks indent 0 [] rest
      readBlockLines folded indent fuel
        { state.addLine folded line lineBreak with moreBreaks := breaks } rest

/-- Read a block scalar after its mark, inside a block that is indented by `parent`. -/
def readBlock (folded : Bool) (parent : Int) (input : Input) : Option (List Char × Input) := do
  let (chomping, indicated, rest) ← readBlockHeader input
  let rest ← skipLineEnd? rest
  let known : Nat := indicated.elim 0 fun indent => (max parent 0).toNat + indent
  let (deepest, breaks, rest) ← skipBlockBreaks known 0 [] rest
  let indent := if known = 0 then max deepest (max (parent + 1).toNat 1) else known
  let (state, rest) ← readBlockLines folded indent rest.length { moreBreaks := breaks } rest
  let tail := match chomping with
    | .strip => []
    | .clip => state.lineBreak
    | .keep => state.moreBreaks ++ state.lineBreak
  some ((tail ++ state.text).reverse, rest)

end ClusterClient.Yaml
