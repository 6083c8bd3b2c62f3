import ClusterClient.Url.Host

namespace ClusterClient

/-- The address of something on a web server. The parts are as written in the normal form: escaped
where they have to be, the host in its ASCII form, dot segments resolved. -/
structure Url where
  /-- `https` rather than `http`. -/
  secure : Bool
  /-- User name and password as they stand before the at sign; empty if there is none. -/
  userinfo : String
  host : Host
  /-- Only a port other than the scheme's own. -/
  port : Option Nat
  /-- The segments, each of which follows a slash. There is at least one. -/
  path : List String
  query : Option String
  fragment : Option String
  deriving DecidableEq, Repr

namespace Url

/-- Escape the bytes beyond printable ASCII and those of some other characters. -/
def escape (special : String) (chars : List Char) : List Char :=
  (Text.utf8 (String.ofList chars)).flatMap fun byte =>
    let c := Char.ofNat byte.toNat
    if byte < 0x20 || 0x7E < byte || special.toList.contains c then Percent.escapeByte byte else [c]

def escapeFragment : List Char → List Char := escape " \"<>\x60"

def escapeQuery : List Char → List Char := escape " \"#<>'"

def escapeSegment : List Char → List Char := escape " \"#<>?^\x60\x7b\x7d"

def escapeUserinfo : List Char → List Char := escape " \"#<>?^\x60\x7b\x7d/:;=@[\\]|"

/-- A segment that stands for the one it is in. -/
def isSingleDot (segment : List Char) : Bool :=
  [".", "%2e", "%2E"].contains (String.ofList segment)

/-- A segment that stands for the one before it. -/
def isDoubleDot (segment : List Char) : Bool :=
  ["..", ".%2e", ".%2E", "%2e.", "%2E.", "%2e%2e", "%2e%2E", "%2E%2e", "%2E%2E"].contains
    (String.ofList segment)

/-- Walk along segments, the ones passed so far last first. A dot segment at the end leaves an
empty one. -/
def resolve (passed : List String) : List (List Char) → List String
  | [] => passed.reverse
  | segment :: rest =>
    if isDoubleDot segment then
      resolve (if rest = [] then "" :: passed.tail else passed.tail) rest
    else if isSingleDot segment then resolve (if rest = [] then "" :: passed else passed) rest
    else resolve (String.ofList (escapeSegment segment) :: passed) rest

/-- The path that some characters up to a query or fragment stand for. -/
def pathOf (chars : List Char) : List String :=
  resolve [] ((chars.map fun c => if c = '\\' then '/' else c).drop 1 |>.splitOn '/')

def pathText (url : Url) : String :=
  String.join (url.path.map ("/" ++ ·))

def queryText (url : Url) : String :=
  match url.query with
  | some query => "?" ++ query
  | none => ""

/-- What a request for the URL names: its path and query. -/
def target (url : Url) : String := url.pathText ++ url.queryText

/-- The normal form. -/
def text (url : Url) : String :=
  (if url.secure then "https://" else "http://")
    ++ (if url.userinfo = "" then "" else url.userinfo ++ "@") ++ url.host.text
    ++ (match url.port with
      | some port => ":" ++ toString port
      | none => "")
    ++ url.target
    ++ (match url.fragment with
      | some fragment => "#" ++ fragment
      | none => "")

/-- Controls and blanks do not count at the ends of a URL, and tabs and line ends nowhere. -/
def significant (text : String) : List Char :=
  let blank (c : Char) : Bool := c.toNat ≤ 0x20
  let trimmed := ((text.toList.dropWhile blank).reverse.dropWhile blank).reverse
  trimmed.filter fun c => c != '\t' && c != '\n' && c != '\r'

/-- The scheme before the first colon, lower-case, and what follows it. -/
def cutScheme? (chars : List Char) : Option (String × List Char) :=
  match chars with
  | [] => none
  | first :: _ =>
    let isSchemeChar (c : Char) : Bool := c.isAlphanum || c == '+' || c == '-' || c == '.'
    match chars.dropWhile isSchemeChar with
    | ':' :: rest =>
      if first.isAlpha then
        some (String.ofList ((chars.takeWhile isSchemeChar).map Char.toLower), rest)
      else none
    | _ => none

/-- The text before the last at sign, if there is one, and the text after it. -/
def cutUserinfo (authority : List Char) : Option (List Char) × List Char :=
  let after := (authority.reverse.takeWhile (· != '@')).reverse
  if after.length = authority.length then (none, authority)
  else (some (authority.take (authority.length - after.length - 1)), after)

/-- User name and password in their normal form, without a colon if the password is empty. -/
def userinfoText : Option (List Char) → String
  | none => ""
  | some chars =>
    let user := escapeUserinfo (chars.takeWhile (· != ':'))
    let password := escapeUserinfo ((chars.dropWhile (· != ':')).drop 1)
    String.ofList (if password = [] then user else user ++ ':' :: password)

/-- The host as written, up to the first colon outside brackets, and the rest. -/
def cutHost (inside : Bool) : List Char → List Char × List Char
  | [] => ([], [])
  | c :: rest =>
    if c = ':' && !inside then ([], c :: rest)
    else
      let (host, after) := cutHost (c == '[' || (inside && c != ']')) rest
      (c :: host, after)

/-- The number after a colon, if there are digits. -/
def portOf : List Char → Except UrlError (Option Nat)
  | ':' :: digits =>
    match Ipv4.number? 10 digits with
    | some port =>
      if 65535 < port then .error .invalidPort else .ok (if digits = [] then none else some port)
    | none => .error .invalidPort
  | _ => .ok none

/-- The end of an authority: where the path, the query or the fragment starts. -/
def endsAuthority (special : Bool) (c : Char) : Bool :=
  c == '/' || c == '?' || c == '#' || (special && c == '\\')

/-- An at sign with nothing before it needs a host. -/
def needsHost (userinfo : Option (List Char)) (host rest : List Char) : Bool :=
  userinfo == some [] && host.isEmpty && !rest.isEmpty

variable [HostNames]

/-- The web URL after its scheme. -/
def ofWeb (secure : Bool) (chars : List Char) : Except UrlError Url := do
  let chars := chars.dropWhile fun c => c == '/' || c == '\\'
  let (userinfo, hostAndPort) := cutUserinfo (chars.takeWhile (!endsAuthority true ·))
  let (host, rest) := cutHost false hostAndPort
  if host = [] then throw .emptyHost
  let host ← Host.ofText host
  let port ← portOf rest
  let after := chars.dropWhile (!endsAuthority true ·)
  let beforeFragment := after.takeWhile (· != '#')
  let query := beforeFragment.dropWhile (· != '?')
  let fragment := after.dropWhile (· != '#')
  return {
    secure
    userinfo := userinfoText userinfo
    host
    port := if port = some (if secure then 443 else 80) then none else port
    path := pathOf (beforeFragment.takeWhile (· != '?'))
    query := if query = [] then none else some (String.ofList (escapeQuery query.tail))
    fragment :=
      if fragment = [] then none else some (String.ofList (escapeFragment fragment.tail)) }

/-- Check the authority of a scheme with hosts like the web's. -/
def checkSpecial (chars : List Char) : Except UrlError Unit := do
  let chars := chars.dropWhile fun c => c == '/' || c == '\\'
  let (_, hostAndPort) := cutUserinfo (chars.takeWhile (!endsAuthority true ·))
  let (host, rest) := cutHost false hostAndPort
  if host = [] then throw .emptyHost
  let _ ← Host.ofText host
  let _ ← portOf rest

/-- Check the host of a file, which may be missing or a drive letter. -/
def checkFile : List Char → Except UrlError Unit
  | first :: second :: chars => do
    let isSlash (c : Char) : Bool := c == '/' || c == '\\'
    let host := chars.takeWhile (!endsAuthority true ·)
    let isDrive : Bool := match host with
      | [letter, mark] => letter.isAlpha && (mark == ':' || mark == '|')
      | _ => false
    if isSlash first && isSlash second && !host.isEmpty && !isDrive then
      let _ ← Host.ofText host
  | _ => .ok ()

/-- Check the authority of a scheme that this library knows nothing about, if there is one. -/
def checkOther : List Char → Except UrlError Unit
  | '/' :: '/' :: chars => do
    let after := chars.dropWhile (!endsAuthority false ·)
    let (userinfo, hostAndPort) := cutUserinfo (chars.takeWhile (!endsAuthority false ·))
    let (host, rest) := cutHost false hostAndPort
    if needsHost userinfo hostAndPort after then throw .emptyHost
    Host.checkOpaque host
    if host = [] && rest != [] then throw .emptyHost
    let _ ← portOf (rest.takeWhile (· != '\\'))
    if host = [] && userinfoText userinfo != "" then throw .emptyHost
  | _ => .ok ()

/-- What a text addresses. -/
inductive Reading where
  | web (url : Url)
  /-- A well-formed URL of another scheme. -/
  | other (scheme : String)
  deriving DecidableEq, Repr

/-- Read a URL that stands on its own. -/
def read (text : String) : Except UrlError Reading :=
  match cutScheme? (significant text) with
  | none => .error .relativeWithoutBase
  | some (scheme, rest) =>
    if scheme = "http" || scheme = "https" then (ofWeb (scheme = "https") rest).map .web
    else if scheme = "ftp" || scheme = "ws" || scheme = "wss" then
      (checkSpecial rest).map fun _ => .other scheme
    else if scheme = "file" then (checkFile rest).map fun _ => .other scheme
    else (checkOther rest).map fun _ => .other scheme

/-- The web URL of a text. -/
def ofText? (text : String) : Option Url :=
  match read text with
  | .ok (.web url) => some url
  | _ => none

end Url

end ClusterClient
