import ClusterClient.Proofs.Discovery.Answers
import ClusterClient.Proofs.Discovery.Assembly

namespace ClusterClient

/-- A surface stands under a legacy prefix without a group, or in a group under the prefix of the
groups. -/
def Surface.IsRooted (surface : Surface) : Prop :=
  surface.groupName = none ∧ surface.addressPrefix ∈ legacyPrefixes ∨
    surface.groupName.isSome ∧ surface.addressPrefix = groupedPrefix

namespace Discovery

/-- All surfaces of some roots are where surfaces stand. -/
def Roots.AreRooted (roots : Roots) : Prop := ∀ surface ∈ roots.surfaces, surface.IsRooted

theorem Roots.AreRooted.addLegacy {roots : Roots} (rooted : roots.AreRooted) {addressPrefix : String}
    (legacy : addressPrefix ∈ Surface.legacyPrefixes) (answer : Except Error LegacyRoot) :
    (roots.addLegacy addressPrefix answer).AreRooted :=
  Roots.forall_addLegacy rooted (fun _ => Or.inl ⟨rfl, legacy⟩) answer

theorem Roots.AreRooted.addNamed {roots : Roots} (rooted : roots.AreRooted)
    (answer : Except Error GroupRoot) : (roots.addNamed answer).AreRooted :=
  Roots.forall_addNamed rooted (fun _ _ => Or.inr ⟨rfl, rfl⟩) answer

theorem fetchRoots_areRooted (transport : Transport) (base : String) :
    (fetchRoots transport base).Ensures Roots.AreRooted := by
  have none : Roots.AreRooted {} := fun surface member => by cases member
  refine .bind (.foldlM (fun roots addressPrefix legacy rooted => ?_) none) fun roots rooted => ?_
  · exact (Wire.Ensures.anything (transport.fetch _ _)).bind fun answer _ => .pure (rooted.addLegacy legacy answer)
  · exact (Wire.Ensures.anything (transport.fetch _ _)).bind fun answer _ => .pure (rooted.addNamed answer)

/-- Each list comes with the surface that was asked for it. -/
theorem fetchListings_surfaces (transport : Transport) (base : String) (surfaces : List Surface) :
    (fetchListings transport base surfaces).Ensures fun listings => surfaces = listings.map (·.1) := by
  have asked : (fetchListings transport base surfaces).Ensures
      (List.Forall₂ (fun surface answer => surface = answer.1) surfaces) :=
    .mapM fun surface _ => (Wire.Ensures.anything (transport.fetch _ _)).bind fun _ _ => .pure rfl
  intro sent
  rw [← List.forall₂_eq_eq_eq, List.forall₂_map_right_iff]
  exact asked sent

theorem surface_of_mem_assemble {groups : List ApiGroup}
    {listings : List (Surface × Except Error ResourceListing)} {endpoint : Endpoint}
    (member : endpoint ∈ (assemble groups listings).endpoints) :
    endpoint.surface ∈ listings.map (·.1) := by
  have known : endpoint.key ∈ (assemble groups listings).endpoints.map Endpoint.key :=
    List.mem_map_of_mem member
  rw [assemble_eq, Catalog.foldl_keys, List.mem_eraseDups] at known
  obtain ⟨item, kept, key⟩ := List.mem_map.mp known
  obtain ⟨answer, listed, inside⟩ := List.mem_flatMap.mp (List.mem_of_mem_filter kept)
  have same := surface_of_mem_entriesOf inside
  rw [Endpoint.surface_of_key key.symm, same]
  exact List.mem_map_of_mem listed

end Discovery

/-- A catalog whose endpoints are told apart by their keys and stand where surfaces stand. -/
structure Catalog.Rooted (catalog : Catalog) : Prop where
  indexed : catalog.Indexed
  rooted : ∀ endpoint ∈ catalog.endpoints, endpoint.surface.IsRooted

/-- Whatever a server answers, what is discovered stands where surfaces stand. -/
theorem Discovery.discover_rooted (transport : Transport) (base : String) :
    (discover transport base).Ensures Catalog.Rooted := by
  refine (fetchRoots_areRooted transport base).bind fun roots rooted => ?_
  refine (fetchListings_surfaces transport base roots.surfaces).bind fun listings surfaces => ?_
  refine .pure ⟨?_, fun endpoint member => ?_⟩
  · have indexed := Catalog.foldl_addEntry_indexed Catalog.indexed_empty
      (listings.flatMap entriesOf)
    rw [assemble_eq]
    exact ⟨indexed.endpoints, indexed.types⟩
  · have listed := surface_of_mem_assemble member
    rw [← surfaces] at listed
    exact rooted endpoint.surface listed

end ClusterClient
