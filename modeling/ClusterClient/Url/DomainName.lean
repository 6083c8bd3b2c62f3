import ClusterClient.Text.Lowercase
import ClusterClient.Url.Host
import ClusterClient.Url.Punycode

namespace ClusterClient.DomainName

/-- Characters that vanish from a name: soft hyphens, zero-width marks, variation selectors. -/
def isIgnored (c : Char) : Bool :=
  Text.inRanges [(0xAD, 0xAD), (0x34F, 0x34F), (0x180B, 0x180D), (0x200B, 0x200B), (0x2060, 0x2060),
    (0x2064, 0x2064), (0xFE00, 0xFE0F), (0xFEFF, 0xFEFF), (0xE0100, 0xE01EF)] c.toNat

/-- The form of a character in a name: lower-case, and ASCII if it is a full-width form or an
ideographic full stop. -/
def mapChar (c : Char) : List Char :=
  if isIgnored c then []
  else if c = '\u3002' || c = '\uff0e' || c = '\uff61' then ['.']
  else if 0xFF01 ≤ c.toNat && c.toNat ≤ 0xFF5E then Text.lowerChar (Char.ofNat (c.toNat - 0xFEE0))
  else if c.toNat = 0xA0 || (0x2000 ≤ c.toNat && c.toNat ≤ 0x200A) || c.toNat = 0x202F
      || c.toNat = 0x205F || c.toNat = 0x3000 then [' ']
  else Text.lowerChar c

def isAscii (c : Char) : Bool := c.toNat < 128

/-- Characters that stand in a name on their own, whatever is next to them: ASCII, letters of Latin,
Greek and Cyrillic that are one character, kana, Han characters, Hangul syllables and pictures. -/
def standsAlone (c : Char) : Bool :=
  isAscii c || Text.inRanges [(0xDF, 0xF6), (0xF8, 0x131), (0x134, 0x13E), (0x141, 0x148),
    (0x14A, 0x17E), (0x180, 0x1C3), (0x1CD, 0x1F0), (0x1F4, 0x2AF), (0x3AC, 0x3CE), (0x430, 0x481),
    (0x48A, 0x52F), (0x1E00, 0x1E99), (0x1EA0, 0x1EF9), (0x2600, 0x27BF), (0x3041, 0x3096),
    (0x309D, 0x309E), (0x30A1, 0x30FE), (0x3400, 0x4DBF), (0x4E00, 0x9FFF), (0xAC00, 0xD7A3),
    (0x1F300, 0x1F64F), (0x1F680, 0x1F6D2)] c.toNat

/-- The ASCII form of a mapped label. A label that claims to be one already has to stand for a
mapped label beyond ASCII. -/
def labelToAscii? (label : List Char) : Option (List Char) :=
  match label with
  | 'x' :: 'n' :: '-' :: '-' :: encoded =>
    if !label.all isAscii then none
    else match Punycode.decode? encoded with
      | some decoded =>
        if decoded.all isAscii || !decoded.all standsAlone || decoded.flatMap mapChar != decoded
            || Punycode.encode decoded != encoded then none
        else some label
      | none => none
  | _ =>
    if label.all isAscii then some label
    else if !label.all standsAlone then none
    else some ('x' :: 'n' :: '-' :: '-' :: Punycode.encode label)

/-- The ASCII form of a name: each label on its own, and no character that is forbidden in hosts. -/
def toAscii? (name : String) : Option String := do
  let labels ← ((name.toList.flatMap mapChar).splitOn '.').mapM labelToAscii?
  let ascii := ['.'].intercalate labels
  if ascii.any Host.isForbidden then none else some (String.ofList ascii)

/-- The names of the program: those whose characters stand on their own. Other names call for tables
of compatibility forms, of composition and of writing directions. They are refused. -/
instance : HostNames := ⟨toAscii?⟩

end ClusterClient.DomainName
