import ClusterClient.Discovery
import ClusterClient.Proofs.Catalog.Restriction

namespace ClusterClient

theorem Catalog.foldl_addGroup (groups : List ApiGroup) :
    groups.foldl Catalog.addGroup {}
      = { ({} : Catalog) with groups := (groups.foldl Catalog.addGroup {}).groups } := by
  induction groups using List.reverseRecOn with
  | nil => rfl
  | append_singleton groups group ih =>
    rw [List.foldl_append, List.foldl_cons, List.foldl_nil, Catalog.addGroup]
    split
    · exact ih
    · rw [ih]

namespace Discovery

/-- The entries of what a surface answered. -/
def entriesOf (answer : Surface × Except Error ResourceListing) : List (Surface × ResourceEntry) :=
  match answer.2 with
  | .ok listing => listing.merged answer.1
  | .error _ => []

theorem surface_of_mem_entriesOf {answer : Surface × Except Error ResourceListing}
    {item : Surface × ResourceEntry} (member : item ∈ entriesOf answer) : item.1 = answer.1 := by
  unfold entriesOf at member
  split at member
  · obtain ⟨entry, _, rfl⟩ := List.mem_map.mp member
    rfl
  · cases member

/-- A discovered catalog is what its groups and the entries of its surfaces make it. -/
theorem assemble_eq (groups : List ApiGroup)
    (listings : List (Surface × Except Error ResourceListing)) :
    assemble groups listings = { (listings.flatMap entriesOf).foldl Catalog.addEntry {} with
      groups := (groups.foldl Catalog.addGroup {}).groups } := by
  rw [assemble, Catalog.foldl_addGroup, ← Catalog.foldl_addEntry_withGroups, List.foldl_flatMap]
  refine List.foldl_ext _ _ _ fun catalog answer _ => ?_
  obtain ⟨surface, listing⟩ := answer
  cases listing with
  | ok listing => exact catalog.addListing_eq_foldl surface listing
  | error => rfl

/-- The entries of some surfaces are those of their own answers. -/
theorem flatMap_entriesOf_filter (keep : Surface → Bool)
    (listings : List (Surface × Except Error ResourceListing)) :
    (listings.flatMap entriesOf).filter (fun item => keep item.1)
      = (listings.filter fun answer => keep answer.1).flatMap entriesOf := by
  induction listings with
  | nil => rfl
  | cons answer rest ih =>
    rw [List.flatMap_cons, List.filter_append, ih, List.filter_cons]
    split
    · next kept =>
      rw [List.flatMap_cons, List.filter_eq_self.mpr fun item member => ?_]
      rw [surface_of_mem_entriesOf member, kept]
    · next dropped =>
      rw [List.filter_eq_nil_iff.mpr fun item member => ?_, List.nil_append]
      rwa [surface_of_mem_entriesOf member]

end Discovery

end ClusterClient
