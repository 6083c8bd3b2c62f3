import ClusterClient.Config
import ClusterClient.Yaml.Anchor
import ClusterClient.Yaml.Written

namespace ClusterClient.Config

open Yaml (Node)

/-- The text of a scalar, whatever its style and tag. -/
def scalarText? (root node : Node Nat) : Option String :=
  match root.follow node with
  | .scalar _ _ text _ => some text
  | _ => none

/-- Whether a value is there. A plain scalar without tag may stand for nothing, and one with the
tag of null has to. -/
def isGiven? (root node : Node Nat) : Option Bool :=
  match root.follow node with
  | .scalar _ none text .plain => some (text != "" && !Yaml.isNull text)
  | .scalar _ (some tag) text .plain =>
    if tag != "tag:yaml.org,2002:null" then some true
    else if Yaml.isNull text then some false
    else none
  | _ => some true

def optionalText? (root node : Node Nat) : Option (Option String) := do
  if ← isGiven? root node then some (some (← scalarText? root node)) else some none

/-- Seconds stay below `2 ^ 64`. -/
def secondsBound : Nat := 0x10000000000000000

/-- A number of seconds, plain or in a block with the tag of integers. -/
def optionalSeconds? (root node : Node Nat) : Option (Option Nat) := do
  if ← isGiven? root node then
    match root.follow node with
    | .scalar _ _ text .plain => some (some (← Yaml.natural? secondsBound text))
    | .scalar _ (some "tag:yaml.org,2002:int") text .literal =>
      some (some (← Yaml.natural? secondsBound text))
    | _ => none
  else some none

/-- The keys of a configuration file. -/
def keys : List String := ["server", "token", "namespace", "timeout_secs", "user_agent"]

/-- Entries by their keys, which have to be scalars. No key of a configuration comes twice. -/
def entries? (root : Node Nat) (entries : List (Node Nat × Node Nat)) :
    Option (List (String × Node Nat)) := do
  let named ← entries.mapM fun (key, value) => (scalarText? root key).map (·, value)
  if keys.all fun key => (named.map (·.1)).count key ≤ 1 then some named else none

/-- The configuration in a document. A document that says nothing sets nothing. -/
def ofNode? (root : Node Nat) : Option Config :=
  match root with
  | .scalar _ _ "" _ => some {}
  | .mapping _ entries => do
    let named ← entries? root entries
    let text (key : String) : Option (Option String) :=
      (named.lookup key).elim (some none) (optionalText? root)
    some {
      server := ← text "server"
      token := ← text "token"
      namespaceName := ← text "namespace"
      timeoutSecs := ← (named.lookup "timeout_secs").elim (some none) (optionalSeconds? root)
      userAgent := ← text "user_agent" }
  | _ => none

/-- The configuration in a file's text, which holds one document at most. -/
def ofText? (text : String) : Option Config := do
  match ← Node.ofText? text with
  | [] => some {}
  | [document] => ofNode? (← document.number? []).1
  | _ => none

/-- The configuration in a file's text, or the default. -/
def ofText (text : String) : Config := (ofText? text).getD {}

/-- The text of a file. A token that is not set is left out. -/
def text (config : Config) : String :=
  let line (key : String) (value : List Char) : List Char := key.toList ++ ':' :: ' ' :: value
  let orNull (value : Option String) : List Char := value.elim "null\n".toList Yaml.written
  String.ofList (
    line "server" (orNull config.server)
      ++ config.token.elim [] (fun token => line "token" (Yaml.written token))
      ++ line "namespace" (orNull config.namespaceName)
      ++ line "timeout_secs" (config.timeoutSecs.elim "null".toList (fun n => (toString n).toList)
        ++ ['\n'])
      ++ line "user_agent" (orNull config.userAgent))

end ClusterClient.Config
