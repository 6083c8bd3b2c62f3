import ClusterClient.Json.Tree

namespace ClusterClient.Json.Tree

/-- Whether no name of `names` stands twice among the names of some members. -/
def noneTwice (names : List String) (members : List (String × Tree)) : Bool :=
  names.all fun name => (members.map (·.1)).count name ≤ 1

/-- The named members of some fields, if all names have values. -/
def namedMembers? (fields : List (Option String × Tree)) : Option (List (String × Tree)) :=
  fields.mapM fun (name, item) => name.map fun name => (name, item)

/-- The fields of a record in the order of `names`, each of them if it is there. An object gives
them by name: other members are passed over and a name may not stand twice. A list gives them by
position: it may stop early, but not go on. -/
def record? (names : List String) : Tree → Option (List (Option Tree))
  | object fields => do
    let members ← namedMembers? fields
    if noneTwice names members then some (names.map fun name => members.lookup name) else none
  | list items =>
    if items.length ≤ names.length then
      some (items.map some ++ List.replicate (names.length - items.length) none)
    else none
  | _ => none

/-- Read a field that may be missing. -/
def readOr {α : Type} (default : α) (read : Tree → Option α) : Option Tree → Option α
  | none => some default
  | some tree => read tree

/-- Read a field that may be null. -/
def readOption {α : Type} (read : Tree → Option α) : Tree → Option (Option α)
  | null => some none
  | tree => (read tree).map some

def readText : Tree → Option String
  | text value => value
  | _ => none

def readBool : Tree → Option Bool
  | bool value => some value
  | _ => none

/-- Read an integer from zero to below `bound`. -/
def readNat (bound : Nat) : Tree → Option Nat
  | number (some (.integer value)) =>
    if 0 ≤ value && value < bound then some value.toNat else none
  | _ => none

def readList {α : Type} (read : Tree → Option α) : Tree → Option (List α)
  | list items => items.mapM read
  | _ => none

end ClusterClient.Json.Tree
