import ClusterClient.Yaml.Node

namespace ClusterClient.Yaml.Node

/-- The anchors met so far and their numbers, the latest first. -/
abbrev Anchors := List (String × Nat)

/-- How many different names have been met. A name that comes again gets this number too, so that
two anchors may share one. -/
def countNames (anchors : Anchors) : Nat := (anchors.map (·.1)).eraseDups.length

/-- Number an anchor. -/
def enter (anchors : Anchors) : Option String → Option Nat × Anchors
  | none => (none, anchors)
  | some name => (some (countNames anchors), (name, countNames anchors) :: anchors)

mutual

/-- Replace names by numbers, in the order of the document. An alias needs an anchor before it. -/
def number? (anchors : Anchors) : Node String → Option (Node Nat × Anchors)
  | .alias name => (anchors.lookup name).map fun number => (.alias number, anchors)
  | .scalar anchor tag text style =>
    let (anchor, anchors) := enter anchors anchor
    some (.scalar anchor tag text style, anchors)
  | .sequence anchor items =>
    let (anchor, anchors) := enter anchors anchor
    (numberItems? anchors items).map fun (items, anchors) => (.sequence anchor items, anchors)
  | .mapping anchor entries =>
    let (anchor, anchors) := enter anchors anchor
    (numberEntries? anchors entries).map fun (entries, anchors) =>
      (.mapping anchor entries, anchors)

def numberItems? (anchors : Anchors) : List (Node String) → Option (List (Node Nat) × Anchors)
  | [] => some ([], anchors)
  | item :: rest => do
    let (item, anchors) ← number? anchors item
    let (items, anchors) ← numberItems? anchors rest
    some (item :: items, anchors)

def numberEntries? (anchors : Anchors) :
    List (Node String × Node String) → Option (List (Node Nat × Node Nat) × Anchors)
  | [] => some ([], anchors)
  | (key, value) :: rest => do
    let (key, anchors) ← number? anchors key
    let (value, anchors) ← number? anchors value
    let (entries, anchors) ← numberEntries? anchors rest
    some ((key, value) :: entries, anchors)

end

/-- A node with its number, if it has one. -/
def labelled (anchor : Option Nat) (node : Node Nat) : List (Nat × Node Nat) :=
  anchor.toList.map fun number => (number, node)

mutual

/-- The numbered nodes of a document, in its order. -/
def targets : Node Nat → List (Nat × Node Nat)
  | .alias _ => []
  | .scalar anchor tag text style => labelled anchor (.scalar anchor tag text style)
  | .sequence anchor items => labelled anchor (.sequence anchor items) ++ itemTargets items
  | .mapping anchor entries => labelled anchor (.mapping anchor entries) ++ entryTargets entries

def itemTargets : List (Node Nat) → List (Nat × Node Nat)
  | [] => []
  | item :: rest => targets item ++ itemTargets rest

def entryTargets : List (Node Nat × Node Nat) → List (Nat × Node Nat)
  | [] => []
  | (key, value) :: rest => targets key ++ targets value ++ entryTargets rest

end

/-- The node that an alias stands for: the last one of its number. -/
def follow (root : Node Nat) : Node Nat → Node Nat
  | .alias number => (root.targets.reverse.lookup number).getD empty
  | node => node

end ClusterClient.Yaml.Node
