import ClusterClient.Proofs.Catalog.Accretion
import ClusterClient.Proofs.Catalog.Declarations

namespace ClusterClient

/-- The first of some items that fits is never a repetition. -/
theorem find?_eraseDups {α : Type} [DecidableEq α] (fits : α → Bool) (list : List α) :
    list.eraseDups.find? fits = list.find? fits := by
  induction list using List.reverseRecOn with
  | nil => rfl
  | append_singleton list last ih =>
    rw [eraseDups_append_singleton, List.find?_append, List.find?_append, ih]
    split
    · next again =>
      cases fitting : fits last with
      | false => simp [fitting]
      | true =>
        have found : (list.find? fits).isSome := List.find?_isSome.mpr ⟨last, again, fitting⟩
        rw [Option.or_of_isSome found, Option.or_of_isSome found]
    · rfl

/-- What tells the type that an entry of a surface declares. A group that the entry names comes before
all else. A version that it names without one is that of a type in no group. Both are those of the
surface if it names neither. An empty text names nothing. -/
def Surface.typeKey (surface : Surface) (entry : ResourceEntry) : TypeKey :=
  match entry.group.filter (· ≠ ""), entry.version.filter (· ≠ "") with
  | some group, some version => ⟨some group, version, entry.kind⟩
  | some group, none => ⟨some group, surface.version, entry.kind⟩
  | none, some version => ⟨none, version, entry.kind⟩
  | none, none => ⟨surface.groupName, surface.version, entry.kind⟩

namespace Catalog

theorem declaredType_key (surface : Surface) (entry : ResourceEntry) :
    (declaredType surface entry).key = surface.typeKey entry := by
  have nonempty : (fun text : String => text != "") = fun text => decide (text ≠ "") :=
    funext fun text => (decide_not ..).symm
  simp only [declaredType, TypeDescriptor.key, Surface.typeKey, nonempty]
  cases entry.group.filter _ <;> cases entry.version.filter _ <;> rfl

/-- The entries of an addition that declare a type: those for collections in the order of their list,
and then those for sub-resources. -/
def Addition.declaring : Addition → List (Surface × ResourceEntry)
  | .group _ => []
  | .listing surface list =>
    (list.resources.filter (fun entry => entry.kind ≠ "" ∧ '/' ∉ entry.name.toList)
      ++ list.resources.filter (fun entry => entry.kind ≠ "" ∧ '/' ∈ entry.name.toList)).map
        (surface, ·)

/-- The entries of some additions that declare a type, in the order in which they come. -/
def declaring (additions : List Addition) : List (Surface × ResourceEntry) :=
  additions.flatMap Addition.declaring

/-- What a catalog knows of types after some additions. -/
structure RecordsTypes (catalog : Catalog) (additions : List Addition) : Prop where
  /-- There is one type for each key that is declared, in the order of the first declarations. -/
  order : catalog.types.map TypeDescriptor.key
    = ((declaring additions).map fun item => item.1.typeKey item.2).eraseDups
  /-- A type in a group has the prefix of the groups, and any other that of its first surface. -/
  places : ∀ type ∈ catalog.types, ∃ first,
    (declaring additions).find? (fun item => type.key = item.1.typeKey item.2) = some first ∧
    type.addressPrefix =
      if type.groupName.isSome then Surface.groupedPrefix else first.1.addressPrefix
  /-- A version of a group resolves exactly the kinds that an entry declares in it. -/
  isSome_iff : ∀ group version kind, '/' ∉ group.toList →
    ((catalog.resolveType (some (group ++ "/" ++ version)) kind).isSome ↔
      ∃ surface listing, .listing surface listing ∈ additions ∧ ∃ entry ∈ listing.resources,
        entry.kind ≠ "" ∧ surface.typeKey entry = ⟨some group, version, kind⟩)
  /-- What it resolves to is the type that is declared. -/
  eq_some_iff : ∀ group version kind type, '/' ∉ group.toList →
    (catalog.resolveType (some (group ++ "/" ++ version)) kind = some type ↔
      type ∈ catalog.types ∧ type.key = ⟨some group, version, kind⟩)
  /-- A kind alone resolves to the type that is declared first, whatever its group and version. -/
  first : ∀ kind, (catalog.resolveType none kind).map TypeDescriptor.key =
    ((declaring additions).map fun item => item.1.typeKey item.2).find? (·.kind = kind)
  first_mem : ∀ kind, ∀ type ∈ catalog.resolveType none kind, type ∈ catalog.types

/-- The types stand under the keys that entries declare, each once, in the order in which they first
come. -/
theorem foldl_types_keys (items : List (Surface × ResourceEntry)) :
    (items.foldl addEntry {}).types.map TypeDescriptor.key =
      ((items.filter (·.2.kind ≠ "")).map fun item => item.1.typeKey item.2).eraseDups := by
  induction items using List.reverseRecOn with
  | nil => rfl
  | append_singleton items item ih =>
    have indexed := foldl_addEntry_indexed indexed_empty items
    rw [List.foldl_append, List.foldl_cons, List.foldl_nil, addEntry_types, addType_types indexed,
      List.map_append, List.filter_append, List.map_append]
    by_cases named : item.2.kind ≠ ""
    · have kept : [item].filter (·.2.kind ≠ "") = [item] :=
        List.filter_cons_of_pos (decide_eq_true named)
      rw [kept, List.map_singleton, eraseDups_append_singleton, ih]
      simp only [named, ne_eq, not_false_eq_true, true_and, List.mem_eraseDups, declaredType_key,
        ite_not]
      refine congrArg₂ (· ++ ·) rfl ?_
      split
      · rfl
      · rw [List.map_singleton, declaredType_key]
    · have dropped : [item].filter (·.2.kind ≠ "") = [] :=
        List.filter_cons_of_neg fun kept => named (of_decide_eq_true kept)
      rw [dropped, if_neg fun both => named both.1, ih]
      simp only [List.map_nil, List.append_nil]

theorem declaring_eq_filter (additions : List Addition) :
    declaring additions = (additions.flatMap Addition.merged).filter (·.2.kind ≠ "") := by
  rw [declaring, List.filter_flatMap]
  refine congrArg (additions.flatMap ·) (funext fun addition => ?_)
  cases addition with
  | group => rfl
  | listing surface listing =>
    have collection (entry : ResourceEntry) :
        entry.suffix?.isNone = decide ('/' ∉ entry.name.toList) := by
      rw [Bool.eq_iff_iff, Option.isNone_iff_eq_none, entry.suffix?_eq_none_iff, decide_eq_true_iff]
    have subresource (entry : ResourceEntry) :
        entry.suffix?.isSome = decide ('/' ∈ entry.name.toList) := by
      rw [← Option.not_isNone, collection, decide_not, Bool.not_not]
    simp only [Addition.declaring, Addition.merged, ResourceListing.merged, List.filter_map,
      List.filter_append, List.filter_filter, Function.comp_def, collection, subresource,
      Bool.decide_and]

theorem ofAdditions_types (additions : List Addition) :
    (ofAdditions additions).types
      = ((additions.flatMap Addition.merged).foldl addEntry {}).types := by
  rw [ofAdditions_eq]

theorem ofAdditions_types_keys (additions : List Addition) :
    (ofAdditions additions).types.map TypeDescriptor.key =
      ((declaring additions).map fun item => item.1.typeKey item.2).eraseDups := by
  rw [ofAdditions_types, foldl_types_keys, declaring_eq_filter]

theorem mem_types_keys {additions : List Addition} {key : TypeKey} :
    key ∈ (ofAdditions additions).types.map TypeDescriptor.key ↔
      ∃ surface listing, .listing surface listing ∈ additions ∧ ∃ entry ∈ listing.resources,
        entry.kind ≠ "" ∧ surface.typeKey entry = key := by
  rw [ofAdditions_types_keys, List.mem_eraseDups, declaring_eq_filter, List.mem_map]
  constructor
  · rintro ⟨⟨surface, entry⟩, member, same⟩
    obtain ⟨merged, named⟩ := List.mem_filter.mp member
    obtain ⟨listing, added, inside⟩ := mem_flatMap_merged.mp merged
    exact ⟨surface, listing, added, entry, inside, of_decide_eq_true named, same⟩
  · rintro ⟨surface, listing, added, entry, inside, named, same⟩
    refine ⟨(surface, entry), List.mem_filter.mpr ⟨?_, decide_eq_true named⟩, same⟩
    exact mem_flatMap_merged.mpr ⟨listing, added, inside⟩

/-- A version of a group is looked up under the key of its kind. -/
theorem resolveType_eq_some_iff {additions : List Addition} {group : String}
    (plain : '/' ∉ group.toList) {version kind : String} {type : TypeDescriptor} :
    (ofAdditions additions).resolveType (some (group ++ "/" ++ version)) kind = some type ↔
      type ∈ (ofAdditions additions).types ∧ type.key = ⟨some group, version, kind⟩ := by
  have indexed := (ofAdditions_indexed additions).types
  have keyed {other : TypeDescriptor} (found : (ofAdditions additions).types.find?
      (·.key = ⟨some group, version, kind⟩) = some other) :
      other ∈ (ofAdditions additions).types ∧ other.key = ⟨some group, version, kind⟩ := by
    have atKey := List.find?_some found
    exact ⟨List.mem_of_find?_eq_some found, of_decide_eq_true atKey⟩
  simp only [resolveType, VersionSelector.ofRequest_grouped plain, typeAt?, indexed.lookup_bind]
  constructor
  · exact keyed
  · rintro ⟨member, same⟩
    have present : ((ofAdditions additions).types.find?
        (·.key = ⟨some group, version, kind⟩)).isSome :=
      List.find?_isSome.mpr ⟨type, member, decide_eq_true same⟩
    obtain ⟨other, found⟩ := Option.isSome_iff_exists.mp present
    obtain ⟨inside, sameKey⟩ := keyed found
    rw [found, indexed.eq_of_key_eq inside member (sameKey.trans same.symm)]

/-- Of all types, a catalog knows those that entries declare, and resolves what is declared. -/
theorem ofAdditions_recordsTypes (additions : List Addition) :
    (ofAdditions additions).RecordsTypes additions where
  order := ofAdditions_types_keys additions
  places := by
    intro type member
    rw [ofAdditions_types, mem_foldl_types_iff_find?] at member
    obtain ⟨first, found, told⟩ := member
    refine ⟨first, ?_, ?_⟩
    · rw [declaring_eq_filter, List.find?_filter, ← found]
      refine congrArg (List.find? · _) (funext fun item => ?_)
      simp only [declares, declaredType_key, Bool.decide_and, Bool.decide_eq_true]
    · rw [told]
      rfl
  isSome_iff := by
    intro group version kind plain
    rw [← mem_types_keys, List.mem_map, Option.isSome_iff_exists]
    exact exists_congr fun type => resolveType_eq_some_iff plain
  eq_some_iff := fun _ _ _ _ plain => resolveType_eq_some_iff plain
  first := by
    intro kind
    rw [← find?_eraseDups, ← ofAdditions_types_keys, List.find?_map]
    rfl
  first_mem := fun kind type found => List.mem_of_find?_eq_some found

end Catalog

end ClusterClient
