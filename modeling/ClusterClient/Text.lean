namespace ClusterClient.Text

/-- The bytes that stand for a text. -/
def utf8 (text : String) : List UInt8 :=
  text.toByteArray.data.toList

/-- The text that some bytes stand for, if they are well-formed. -/
def ofUtf8? (bytes : List UInt8) : Option String :=
  String.fromUTF8? ⟨bytes.toArray⟩

/-- The bytes of a text read back as that text. -/
theorem ofUtf8?_utf8 (text : String) : ofUtf8? (utf8 text) = some text := by
  have whole : (⟨(utf8 text).toArray⟩ : ByteArray) = text.toByteArray := by simp [utf8]
  rw [ofUtf8?, whole, String.fromUTF8?, dif_pos text.isValidUTF8]
  rfl

/-- What stands before the first `sep`, and what follows it if it occurs at all. -/
def cut (sep : Char) (text : String) : String × Option String :=
  match text.toList.dropWhile (· != sep) with
  | [] => (text, none)
  | _ :: after => (String.ofList (text.toList.takeWhile (· != sep)), some (String.ofList after))

/-- The pieces of a text between its separators; there is always at least one. -/
def pieces (sep : Char) (text : String) : List String :=
  (text.toList.splitOn sep).map String.ofList

/-- A text without the run of `c` that it starts with. -/
def trimStart (c : Char) (text : String) : String :=
  String.ofList (text.toList.dropWhile (· == c))

/-- A text without the run of `c` that it ends with. -/
def trimEnd (c : Char) (text : String) : String :=
  String.ofList (text.toList.reverse.dropWhile (· == c)).reverse

/-- The rest of a text after `start`, if it starts so. -/
def afterPrefix? (start text : String) : Option String :=
  (start.toList.isPrefixOf? text.toList).map String.ofList

/-- A text without `ending`, if it ends so. -/
def beforeSuffix? (ending text : String) : Option String :=
  (ending.toList.reverse.isPrefixOf? text.toList.reverse).map fun rest => String.ofList rest.reverse

/-- White space of any script: blanks, controls that move on, and separators. -/
def isSpace (c : Char) : Bool :=
  let code := c.toNat
  (0x09 ≤ code && code ≤ 0x0D) || code == 0x20 || code == 0x85 || code == 0xA0 || code == 0x1680
    || (0x2000 ≤ code && code ≤ 0x200A) || code == 0x2028 || code == 0x2029 || code == 0x202F
    || code == 0x205F || code == 0x3000

end ClusterClient.Text
