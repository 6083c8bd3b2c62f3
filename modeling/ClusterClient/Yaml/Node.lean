import ClusterClient.Yaml.Token

namespace ClusterClient.Yaml

/-- A node of a document. An alias names its target by its anchor, or by a number. -/
inductive Node (Target : Type) where
  | alias (target : Target)
  | scalar (anchor : Option Target) (tag : Option String) (text : String) (style : Style)
  | sequence (anchor : Option Target) (items : List (Node Target))
  | mapping (anchor : Option Target) (entries : List (Node Target × Node Target))

namespace Node

/-- What stands where nothing is written. -/
def empty {Target : Type} : Node Target := .scalar none none "" .plain

/-- The handles of a document and the starts of tags that they stand for. -/
abbrev Handles := List (String × String)

def standardHandles : Handles := [("!", "!"), ("!!", "tag:yaml.org,2002:")]

/-- The full form of a tag; none if its handle is unknown. -/
def resolveTag? (handles : Handles) (handle suffix : String) : Option String :=
  if handle = "" then some suffix else (handles.lookup handle).map (· ++ suffix)

/-- Read the anchor and the tag of a node, in either order and each at most once. -/
def readProperties (handles : Handles) (tokens : List Token) :
    Option (Option String × Option String × List Token) :=
  match tokens with
  | .anchor name :: .tag handle suffix :: rest =>
    (resolveTag? handles handle suffix).map fun tag => (some name, some tag, rest)
  | .tag handle suffix :: .anchor name :: rest =>
    (resolveTag? handles handle suffix).map fun tag => (some name, some tag, rest)
  | .anchor name :: rest => some (some name, none, rest)
  | .tag handle suffix :: rest =>
    (resolveTag? handles handle suffix).map fun tag => (none, some tag, rest)
  | rest => some (none, none, rest)

/-- Whether a node of a block mapping is missing here. -/
def isGapInMapping : List Token → Bool
  | .key :: _ => true
  | .value :: _ => true
  | .blockEnd :: _ => true
  | _ => false

/-- Whether an item of a block sequence is missing here. -/
def isGapInSequence : List Token → Bool
  | .blockEntry :: _ => true
  | .blockEnd :: _ => true
  | _ => false

/-- Whether a node between brackets is missing here, before the token that closes them. -/
def isGapInFlow (close : Token) : List Token → Bool
  | .value :: _ => true
  | .flowEntry :: _ => true
  | token :: _ => token == close
  | [] => false

mutual

/-- Read a node. Only in a block may it be a block itself, and only in a block mapping a sequence
that is not indented. The fuel bounds the calls below. -/
def read (handles : Handles) (inBlock unindented : Bool) :
    Nat → List Token → Option (Node String × List Token)
  | 0, _ => none
  | fuel + 1, tokens =>
    match tokens with
    | .alias name :: rest => some (.alias name, rest)
    | _ => do
      let (anchor, tag, rest) ← readProperties handles tokens
      match rest with
      | .scalar text style :: rest => some (.scalar anchor tag text style, rest)
      | .flowSequenceStart :: rest => do
        let (items, rest) ← readFlowItems handles true fuel rest
        some (.sequence anchor items, rest)
      | .flowMappingStart :: rest => do
        let (entries, rest) ← readFlowEntries handles true fuel rest
        some (.mapping anchor entries, rest)
      | .blockEntry :: _ =>
        if unindented then do
          let (items, rest) ← readBlockItems handles true fuel rest
          some (.sequence anchor items, rest)
        else if anchor.isSome || tag.isSome then some (.scalar anchor tag "" .plain, rest)
        else none
      | .blockSequenceStart :: after =>
        if inBlock then do
          let (items, rest) ← readBlockItems handles false fuel after
          some (.sequence anchor items, rest)
        else if anchor.isSome || tag.isSome then some (.scalar anchor tag "" .plain, rest)
        else none
      | .blockMappingStart :: after =>
        if inBlock then do
          let (entries, rest) ← readBlockEntries handles fuel after
          some (.mapping anchor entries, rest)
        else if anchor.isSome || tag.isSome then some (.scalar anchor tag "" .plain, rest)
        else none
      | rest =>
        if anchor.isSome || tag.isSome then some (.scalar anchor tag "" .plain, rest) else none

/-- Read the items of a block sequence up to its end. One that is not indented ends with its last
item. -/
def readBlockItems (handles : Handles) (unindented : Bool) :
    Nat → List Token → Option (List (Node String) × List Token)
  | 0, _ => none
  | fuel + 1, tokens =>
    match tokens with
    | .blockEntry :: rest => do
      let isGap := isGapInSequence rest || (unindented && isGapInMapping rest)
      let (item, rest) ← if isGap then some (empty, rest) else read handles true false fuel rest
      let (items, rest) ← readBlockItems handles unindented fuel rest
      some (item :: items, rest)
    | .blockEnd :: rest => if unindented then some ([], tokens) else some ([], rest)
    | _ => if unindented then some ([], tokens) else none

/-- Read the value after a key of a block mapping. -/
def readBlockValue (handles : Handles) :
    Nat → List Token → Option (Node String × List Token)
  | 0, _ => none
  | fuel + 1, tokens =>
    match tokens with
    | .value :: rest =>
      if isGapInMapping rest then some (empty, rest) else read handles true true fuel rest
    | _ => some (empty, tokens)

/-- Read the entries of a block mapping up to its end. -/
def readBlockEntries (handles : Handles) :
    Nat → List Token → Option (List (Node String × Node String) × List Token)
  | 0, _ => none
  | fuel + 1, tokens =>
    match tokens with
    | .key :: rest => do
      let (key, rest) ←
        if isGapInMapping rest then some (empty, rest) else read handles true true fuel rest
      let (value, rest) ← readBlockValue handles fuel rest
      let (entries, rest) ← readBlockEntries handles fuel rest
      some ((key, value) :: entries, rest)
    | .blockEnd :: rest => some ([], rest)
    | _ => none

/-- Read the value after a key between brackets. -/
def readFlowValue (handles : Handles) (close : Token) :
    Nat → List Token → Option (Node String × List Token)
  | 0, _ => none
  | fuel + 1, tokens =>
    match tokens with
    | .value :: rest =>
      match rest with
      | .flowEntry :: _ => some (empty, rest)
      | token :: _ =>
        if token = close then some (empty, rest) else read handles false false fuel rest
      | [] => none
    | _ => some (empty, tokens)

/-- Read the items of a flow sequence up to its bracket. A key makes a mapping of one entry. A key
that is missing takes the token after it along. -/
def readFlowItems (handles : Handles) (first : Bool) :
    Nat → List Token → Option (List (Node String) × List Token)
  | 0, _ => none
  | fuel + 1, tokens =>
    match tokens with
    | .flowSequenceEnd :: rest => some ([], rest)
    | _ => do
      let rest ← if first then some tokens else match tokens with
        | .flowEntry :: rest => some rest
        | _ => none
      match rest with
      | .flowSequenceEnd :: rest => some ([], rest)
      | .key :: rest => do
        let (key, rest) ←
          if isGapInFlow .flowSequenceEnd rest then some (empty, rest.tail)
          else read handles false false fuel rest
        let (value, rest) ← readFlowValue handles .flowSequenceEnd fuel rest
        let (items, rest) ← readFlowItems handles false fuel rest
        some (.mapping none [(key, value)] :: items, rest)
      | rest => do
        let (item, rest) ← read handles false false fuel rest
        let (items, rest) ← readFlowItems handles false fuel rest
        some (item :: items, rest)

/-- Read the entries of a flow mapping up to its brace. An entry without a key mark has no value. -/
def readFlowEntries (handles : Handles) (first : Bool) :
    Nat → List Token → Option (List (Node String × Node String) × List Token)
  | 0, _ => none
  | fuel + 1, tokens =>
    match tokens with
    | .flowMappingEnd :: rest => some ([], rest)
    | _ => do
      let rest ← if first then some tokens else match tokens with
        | .flowEntry :: rest => some rest
        | _ => none
      match rest with
      | .flowMappingEnd :: rest => some ([], rest)
      | .key :: rest => do
        let (key, rest) ←
          if isGapInFlow .flowMappingEnd rest then some (empty, rest)
          else read handles false false fuel rest
        let (value, rest) ← readFlowValue handles .flowMappingEnd fuel rest
        let (entries, rest) ← readFlowEntries handles false fuel rest
        some ((key, value) :: entries, rest)
      | rest => do
        let (key, rest) ← read handles false false fuel rest
        let (entries, rest) ← readFlowEntries handles false fuel rest
        some ((key, empty) :: entries, rest)

end

/-- Read directives: a version at most once and of major number one, and each handle at most
once. -/
def readDirectives (versionSeen : Bool) (handles : Handles) :
    List Token → Option (Handles × List Token)
  | .version major minor :: rest =>
    if versionSeen || major != 1 || (minor != 1 && minor != 2) then none
    else readDirectives true handles rest
  | .tagHandle handle start :: rest =>
    if (handles.lookup handle).isSome then none
    else readDirectives versionSeen ((handle, start) :: handles) rest
  | rest => some (handles, rest)

/-- Whether a document without content ends here. -/
def isGapInStream : List Token → Bool
  | [] => true
  | .version _ _ :: _ => true
  | .tagHandle _ _ :: _ => true
  | .documentStart :: _ => true
  | .documentEnd :: _ => true
  | _ => false

/-- Read documents up to the end of the stream. Only the first one may lack its start mark. -/
def readStream (first : Bool) : Nat → List Token → Option (List (Node String))
  | 0, _ => none
  | fuel + 1, tokens => do
    let tokens := if first then tokens else tokens.dropWhile (· == .documentEnd)
    let bare : Bool := first && match tokens with
      | .documentEnd :: _ => true
      | tokens => !isGapInStream tokens
    if tokens = [] then some []
    else do
      let (root, rest) ←
        if bare then read standardHandles true false (6 * tokens.length + 6) tokens
        else do
          let (handles, rest) ← readDirectives false [] tokens
          match rest with
          | .documentStart :: rest =>
            if isGapInStream rest then some (empty, rest)
            else read (handles ++ standardHandles) true false (6 * rest.length + 6) rest
          | _ => none
      let rest := match rest with
        | .documentEnd :: rest => rest
        | rest => rest
      let documents ← readStream false fuel rest
      some (root :: documents)

/-- The documents of a text. -/
def ofText? (text : String) : Option (List (Node String)) := do
  let tokens ← tokens? text
  readStream true (tokens.length + 1) tokens

end Node

end ClusterClient.Yaml
