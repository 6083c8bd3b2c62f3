import ClusterClient.Json.Number

namespace ClusterClient.Json

/-- A well-formed text before its scalars are given values. A number beyond the doubles and a text
with a lone surrogate have none; that matters only to a reader who asks for the value. -/
inductive Tree where
  | null
  | bool (value : Bool)
  | number (value : Option Number)
  | text (value : Option String)
  | list (items : List Tree)
  | object (fields : List (Option String × Tree))

namespace Tree

mutual

/-- The document of a tree, as far as all its scalars have values and lists and objects nest no
deeper than `depth`. -/
def document? (depth : Nat) : Tree → Option Json
  | null => some .null
  | bool value => some (.bool value)
  | number value => value.map .number
  | text value => value.map .text
  | list items =>
    match depth with
    | 0 => none
    | depth + 1 => (documents? depth items).map .list
  | object fields =>
    match depth with
    | 0 => none
    | depth + 1 => (members? depth fields).map fun members => .object (Fields.ofList members)

def documents? (depth : Nat) : List Tree → Option (List Json)
  | [] => some []
  | item :: rest => do
    let value ← document? depth item
    let values ← documents? depth rest
    some (value :: values)

def members? (depth : Nat) : List (Option String × Tree) → Option (List (String × Json))
  | [] => some []
  | (name, item) :: rest => do
    let name ← name
    let value ← document? depth item
    let values ← members? depth rest
    some ((name, value) :: values)

end

mutual

/-- A document as a tree. -/
def ofDocument : Json → Tree
  | .null => null
  | .bool value => bool value
  | .number value => number (some value)
  | .text value => text (some value)
  | .list items => list (ofDocuments items)
  | .object fields => object (ofMembers fields)

def ofDocuments : List Json → List Tree
  | [] => []
  | item :: rest => ofDocument item :: ofDocuments rest

def ofMembers : List (String × Json) → List (Option String × Tree)
  | [] => []
  | (name, item) :: rest => (some name, ofDocument item) :: ofMembers rest

end

end Tree

end ClusterClient.Json
