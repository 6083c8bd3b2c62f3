import ClusterClient.Text
import ClusterClient.Text.Lowercase

namespace ClusterClient.Kind

/-- The kind of a client-side aggregate. No server has an address for it. -/
def aggregate : String := "List"

/-- The kinds that hold namespaces: their objects are addressed without one. -/
def isNamespaceRoot (kind : String) : Bool :=
  kind == "Project" || kind == "Namespace"

/-- Collection names that the suffix rules would get wrong. -/
def irregularPlurals : List (String × String) := [
  ("Endpoints", "endpoints"),
  ("SecurityContextConstraints", "securitycontextconstraints"),
  ("PodSecurityPolicy", "podsecuritypolicies"),
  ("ComponentStatus", "componentstatuses")]

def isVowel (c : Char) : Bool :=
  c == 'a' || c == 'e' || c == 'i' || c == 'o' || c == 'u'

/-- The plural of a lower-case word: `es` after a hiss, `ies` for a `y` after anything but a
vowel, else `s`. -/
def regularPlural (word : String) : String :=
  if ["s", "x", "ch", "sh"].any fun hiss => (Text.beforeSuffix? hiss word).isSome then word ++ "es"
  else match Text.beforeSuffix? "y" word with
    | some stem => if stem.toList.getLast?.any isVowel then word ++ "s" else stem ++ "ies"
    | none => word ++ "s"

/-- The collection name of a kind, for want of a discovered one. -/
def plural (kind : String) : String :=
  (irregularPlurals.lookup kind).getD (regularPlural (Text.lower kind))

end ClusterClient.Kind
