import ClusterClient.Json.Reader
import ClusterClient.Json.Record
import ClusterClient.Surface
import ClusterClient.Text

namespace ClusterClient

open Json.Tree (readOr readOption readText readBool readList)

/-- What a legacy prefix answers: its versions. -/
structure LegacyRoot where
  versions : List String := []
  deriving DecidableEq, Repr

def LegacyRoot.ofTree? (tree : Json.Tree) : Option LegacyRoot := do
  match ← tree.record? ["versions"] with
  | [versions] => some { versions := ← readOr [] (readList readText) versions }
  | _ => none

/-- The version of a group's entry, which may also tell the group. -/
def groupVersion? (tree : Json.Tree) : Option String := do
  match ← tree.record? ["groupVersion", "version"] with
  | [groupVersion, version] =>
    let _ ← readOr none (readOption readText) groupVersion
    version.bind readText
  | _ => none

/-- How deep a preferred version may nest, three levels down in its document. -/
def preferredDepth : Nat := Json.depthLimit - 3

/-- A preferred version: an entry like those of the list, or else the bare version. All of its
scalars have to have values, even those that are passed over. -/
def preferredVersion? (tree : Json.Tree) : Option String := do
  let _ ← tree.document? preferredDepth
  (groupVersion? tree).or (readText tree)

/-- One named group: its versions in the order in which the server lists them. -/
structure GroupEntry where
  name : String
  versions : List String := []
  preferredVersion : Option String := none
  deriving DecidableEq, Repr

def GroupEntry.ofTree? (tree : Json.Tree) : Option GroupEntry := do
  match ← tree.record? ["name", "versions", "preferredVersion"] with
  | [name, versions, preferredVersion] =>
    let name ← name.bind readText
    let versions ← readOr [] (readList groupVersion?) versions
    let preferredVersion ← readOr none (readOption preferredVersion?) preferredVersion
    some { name, versions, preferredVersion }
  | _ => none

/-- What the prefix of the groups answers. -/
structure GroupRoot where
  groups : List GroupEntry := []
  deriving DecidableEq, Repr

def GroupRoot.ofTree? (tree : Json.Tree) : Option GroupRoot := do
  match ← tree.record? ["groups"] with
  | [groups] => some { groups := ← readOr [] (readList GroupEntry.ofTree?) groups }
  | _ => none

/-- One entry of a surface's list: a collection, or `collection/suffix` for a sub-resource. -/
structure ResourceEntry where
  name : String
  kind : String := ""
  /-- The group of the type that the entry returns, if it is not that of the surface. -/
  group : Option String := none
  version : Option String := none
  namespaced : Bool := false
  verbs : List String := []
  deriving DecidableEq, Repr

namespace ResourceEntry

def ofTree? (tree : Json.Tree) : Option ResourceEntry := do
  match ← tree.record? ["name", "kind", "group", "version", "namespaced", "verbs"] with
  | [name, kind, group, version, namespaced, verbs] =>
    let name ← name.bind readText
    let kind ← readOr "" readText kind
    let group ← readOr none (readOption readText) group
    let version ← readOr none (readOption readText) version
    let namespaced ← readOr false readBool namespaced
    let verbs ← readOr [] (readList readText) verbs
    some { name, kind, group, version, namespaced, verbs }
  | _ => none

/-- The collection an entry is about. -/
def base (entry : ResourceEntry) : String := (Text.cut '/' entry.name).1

/-- The sub-resource an entry is about, if it is about one. -/
def suffix? (entry : ResourceEntry) : Option String := (Text.cut '/' entry.name).2

end ResourceEntry

/-- What a surface answers. -/
structure ResourceListing where
  resources : List ResourceEntry := []
  deriving DecidableEq, Repr

def ResourceListing.ofTree? (tree : Json.Tree) : Option ResourceListing := do
  match ← tree.record? ["resources"] with
  | [resources] => some { resources := ← readOr [] (readList ResourceEntry.ofTree?) resources }
  | _ => none

def ResourceListing.ofText? (text : String) : Option ResourceListing :=
  (Json.Tree.ofText? text).bind ofTree?

end ClusterClient
