namespace ClusterClient

/-- A place where a server lists resources: one version of a legacy prefix or of a group. -/
structure Surface where
  addressPrefix : String
  groupName : Option String
  version : String
  deriving DecidableEq, Repr

namespace Surface

/-- The prefixes without groups, in the order in which they are asked. -/
def legacyPrefixes : List String := ["api", "oapi"]

/-- The prefix of every group. -/
def groupedPrefix : String := "apis"

/-- The version to prefer on a legacy prefix whose own list holds it. -/
def seededVersions : List (String × String) := [("api", "v1"), ("oapi", "v1")]

/-- The path of the surface's resource list below the server's address. -/
def path (surface : Surface) : String :=
  match surface.groupName with
  | some group => surface.addressPrefix ++ "/" ++ group ++ "/" ++ surface.version
  | none => surface.addressPrefix ++ "/" ++ surface.version

end Surface

/-- All versions under one legacy prefix or of one group. -/
structure ApiGroup where
  addressPrefix : String
  groupName : Option String
  supportedVersions : List String
  preferredVersion : Option String
  deriving DecidableEq, Repr

/-- A legacy prefix has no group name. -/
def ApiGroup.isLegacy (group : ApiGroup) : Bool := group.groupName.isNone

end ClusterClient
