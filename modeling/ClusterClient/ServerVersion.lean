import ClusterClient.Json.Reader
import ClusterClient.Json.Record
import ClusterClient.Text

namespace ClusterClient

/-- What a server says about its own version. -/
structure ServerVersion where
  major : String := ""
  minor : String := ""
  gitVersion : String := ""
  deriving DecidableEq, Repr

namespace ServerVersion

def ofNumbers (major minor : Nat) : ServerVersion :=
  { major := toString major
    minor := toString minor
    gitVersion := "v" ++ toString major ++ "." ++ toString minor ++ ".0" }

/-- A version document, of which each member may be missing. -/
def ofTree? (tree : Json.Tree) : Option ServerVersion := do
  match ← tree.record? ["major", "minor", "gitVersion"] with
  | [major, minor, gitVersion] =>
    let major ← Json.Tree.readOr "" Json.Tree.readText major
    let minor ← Json.Tree.readOr "" Json.Tree.readText minor
    let gitVersion ← Json.Tree.readOr "" Json.Tree.readText gitVersion
    some { major, minor, gitVersion }
  | _ => none

def ofText? (text : String) : Option ServerVersion :=
  (Json.Tree.ofText? text).bind ofTree?

def toJson (version : ServerVersion) : Json :=
  .object [("gitVersion", .text version.gitVersion), ("major", .text version.major),
    ("minor", .text version.minor)]

/-- The number that a text starts with. There is none without digits, and none from `2 ^ 32` on. -/
def leadingNumber? (text : String) : Option Nat :=
  let digits := text.toList.takeWhile Char.isDigit
  let value := digits.foldl (fun n c => 10 * n + (c.toNat - 48)) 0
  if digits = [] || 0x100000000 ≤ value then none else some value

/-- The first two dotted numbers of the version tag, any `v` before them aside. -/
def tagNumbers? (version : ServerVersion) : Option (Nat × Nat) :=
  match Text.pieces '.' (Text.trimStart 'v' version.gitVersion) with
  | major :: minor :: _ => do
    let major ← leadingNumber? major
    let minor ← leadingNumber? minor
    some (major, minor)
  | _ => none

/-- The version's numbers; each falls back on the version tag for itself. -/
def numbers? (version : ServerVersion) : Option (Nat × Nat) := do
  let major ← (leadingNumber? version.major).or (version.tagNumbers?.map (·.1))
  let minor ← (leadingNumber? version.minor).or (version.tagNumbers?.map (·.2))
  some (major, minor)

/-- Whether the version is known to be at least `major.minor`. -/
def atLeast (version : ServerVersion) (major minor : Nat) : Bool :=
  match version.numbers? with
  | some (ownMajor, ownMinor) => major < ownMajor || (major == ownMajor && minor ≤ ownMinor)
  | none => false

end ServerVersion

end ClusterClient
