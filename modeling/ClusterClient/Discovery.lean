import ClusterClient.Catalog
import ClusterClient.Http

namespace ClusterClient.Discovery

/-- The group of a legacy prefix. It prefers its seeded version if it has it, else its last one. -/
def legacyGroup (addressPrefix : String) (root : LegacyRoot) : ApiGroup :=
  let seeded := (Surface.seededVersions.lookup addressPrefix).filter root.versions.contains
  { addressPrefix
    groupName := none
    supportedVersions := root.versions
    preferredVersion := seeded.or root.versions.getLast? }

def legacySurfaces (addressPrefix : String) (root : LegacyRoot) : List Surface :=
  root.versions.map fun version => { addressPrefix, groupName := none, version }

def namedGroup (entry : GroupEntry) : ApiGroup :=
  { addressPrefix := Surface.groupedPrefix
    groupName := some entry.name
    supportedVersions := entry.versions
    preferredVersion := entry.preferredVersion }

def namedSurfaces (entry : GroupEntry) : List Surface :=
  entry.versions.map fun version =>
    { addressPrefix := Surface.groupedPrefix, groupName := some entry.name, version }

/-- What the root documents tell: groups, and the surfaces whose lists are still to be fetched. -/
structure Roots where
  groups : List ApiGroup := []
  surfaces : List Surface := []
  deriving DecidableEq, Repr

namespace Roots

/-- Add what a legacy prefix answered. A prefix that fails is left out. -/
def addLegacy (roots : Roots) (addressPrefix : String) : Except Error LegacyRoot → Roots
  | .ok root =>
    { groups := roots.groups ++ [legacyGroup addressPrefix root]
      surfaces := roots.surfaces ++ legacySurfaces addressPrefix root }
  | .error _ => roots

/-- Add what the prefix of the groups answered. -/
def addNamed (roots : Roots) : Except Error GroupRoot → Roots
  | .ok root =>
    { groups := roots.groups ++ root.groups.map namedGroup
      surfaces := roots.surfaces ++ root.groups.flatMap namedSurfaces }
  | .error _ => roots

end Roots

/-- The catalog of some groups and of the lists of some surfaces. A list that failed is left out. -/
def assemble (groups : List ApiGroup) (listings : List (Surface × Except Error ResourceListing)) :
    Catalog :=
  listings.foldl (fun catalog (surface, listing) =>
    match listing with
    | .ok listing => catalog.addListing surface listing
    | .error _ => catalog) (groups.foldl Catalog.addGroup {})

/-- Ask the legacy prefixes one after the other, then the prefix of the groups. -/
def fetchRoots (transport : Transport) (base : String) : Wire Roots := do
  let roots ← Surface.legacyPrefixes.foldlM (fun roots addressPrefix => do
    let answer ← transport.fetch LegacyRoot.ofTree? (base ++ "/" ++ addressPrefix)
    return roots.addLegacy addressPrefix answer) ({} : Roots)
  let answer ← transport.fetch GroupRoot.ofTree? (base ++ "/" ++ Surface.groupedPrefix)
  return roots.addNamed answer

/-- Ask every surface for its list. -/
def fetchListings (transport : Transport) (base : String) (surfaces : List Surface) :
    Wire (List (Surface × Except Error ResourceListing)) :=
  surfaces.mapM fun surface => do
    let listing ← transport.fetch ResourceListing.ofTree? (base ++ "/" ++ surface.path)
    return (surface, listing)

/-- Find out what a server serves. No failure of one of its surfaces shows in the others. -/
def discover (transport : Transport) (base : String) : Wire Catalog := do
  let roots ← fetchRoots transport base
  let listings ← fetchListings transport base roots.surfaces
  return assemble roots.groups listings

end ClusterClient.Discovery
