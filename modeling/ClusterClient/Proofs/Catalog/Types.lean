import ClusterClient.Proofs.Catalog.Merge

namespace ClusterClient

namespace Catalog

variable {catalog : Catalog}

/-- The prefix of a declared type follows from its group, so at one surface the key tells the type. -/
theorem declaredType_eq_of_key_eq {surface : Surface} {entry other : ResourceEntry}
    (same : (declaredType surface entry).key = (declaredType surface other).key) :
    declaredType surface entry = declaredType surface other := by
  obtain ⟨group, version, kind⟩ := (TypeKey.mk.injEq ..).mp same
  have place : (declaredType surface entry).addressPrefix
      = (declaredType surface other).addressPrefix :=
    congrArg (fun name : Option String =>
      if name.isSome then Surface.groupedPrefix else surface.addressPrefix) group
  exact (TypeDescriptor.mk.injEq ..).mpr ⟨place, group, version, kind⟩

theorem enterType_of_known (indexed : catalog.Indexed) {type : TypeDescriptor}
    (known : type.key ∈ catalog.types.map TypeDescriptor.key) : catalog.enterType type = catalog := by
  unfold enterType
  split
  · rfl
  · next fresh => exact absurd known ((indexed.types.lookup_eq_none_iff _).mp fresh)

theorem addType_types (indexed : catalog.Indexed) (surface : Surface) (entry : ResourceEntry) :
    (addType surface catalog entry).types = catalog.types ++
      if entry.kind ≠ "" ∧
          (declaredType surface entry).key ∉ catalog.types.map TypeDescriptor.key then
        [declaredType surface entry]
      else [] := by
  unfold addType
  by_cases unnamed : entry.kind = ""
  · simp [unnamed]
  · by_cases known : (declaredType surface entry).key ∈ catalog.types.map TypeDescriptor.key
    · rw [if_neg unnamed, enterType_of_known indexed known, if_neg fun both => both.2 known,
        List.append_nil]
    · have fresh := (indexed.types.lookup_eq_none_iff _).mpr known
      rw [if_neg unnamed, if_pos ⟨unnamed, known⟩]
      simp only [enterType, fresh]

theorem learnPlural_types (catalog : Catalog) (key : TypeKey) (plural : String) :
    (catalog.learnPlural key plural).types = catalog.types := by
  unfold learnPlural
  split <;> rfl

theorem enterEndpoint_types (catalog : Catalog) (endpoint : Endpoint) :
    (catalog.enterEndpoint endpoint).types = catalog.types := by
  unfold enterEndpoint
  split <;> rfl

theorem noteCapability_types (catalog : Catalog) (key : EndpointKey) (capability : String) :
    (catalog.noteCapability key capability).types = catalog.types := by
  unfold noteCapability
  split <;> rfl

/-- Whatever else an entry tells, of types it tells the one that it declares. -/
theorem addEntry_types (catalog : Catalog) (item : Surface × ResourceEntry) :
    (catalog.addEntry item).types = (addType item.1 catalog item.2).types := by
  unfold addEntry
  split
  · unfold addCollection
    split
    · rfl
    · rw [enterEndpoint_types, learnPlural_types]
  · unfold addSubresource
    split
    · rw [noteCapability_types]
    · rfl

/-- The first entry under a key tells the type. -/
theorem mem_addEntry_types (indexed : catalog.Indexed) {item : Surface × ResourceEntry}
    {type : TypeDescriptor} :
    type ∈ (catalog.addEntry item).types ↔ type ∈ catalog.types ∨
      type.key ∉ catalog.types.map TypeDescriptor.key ∧ item.2.kind ≠ "" ∧
        type = declaredType item.1 item.2 := by
  rw [addEntry_types, addType_types indexed, List.mem_append]
  refine or_congr_right ?_
  split
  · next told =>
    rw [List.mem_singleton]
    constructor
    · rintro rfl
      exact ⟨told.2, told.1, rfl⟩
    · exact fun found => found.2.2
  · next untold =>
    constructor
    · intro member
      cases member
    · rintro ⟨fresh, named, rfl⟩
      exact absurd ⟨named, fresh⟩ untold

theorem mem_keys_addEntry_types (indexed : catalog.Indexed) (item : Surface × ResourceEntry)
    {key : TypeKey} :
    key ∈ (catalog.addEntry item).types.map TypeDescriptor.key ↔
      key ∈ catalog.types.map TypeDescriptor.key ∨
        item.2.kind ≠ "" ∧ key = (declaredType item.1 item.2).key := by
  rw [addEntry_types, addType_types indexed, List.map_append, List.mem_append]
  by_cases told : item.2.kind ≠ "" ∧
      (declaredType item.1 item.2).key ∉ catalog.types.map TypeDescriptor.key
  · rw [if_pos told, List.map_singleton, List.mem_singleton]
    exact or_congr_right ⟨fun same => ⟨told.1, same⟩, fun found => found.2⟩
  · rw [if_neg told, List.map_nil]
    constructor
    · rintro (known | member)
      · exact Or.inl known
      · cases member
    · rintro (known | ⟨named, rfl⟩)
      · exact Or.inl known
      · exact Or.inl (not_not.mp fun fresh => told ⟨named, fresh⟩)

/-- Of the entries of one surface each tells its type, unless the key was known before them all. -/
theorem mem_foldl_types (indexed : catalog.Indexed) {surface : Surface}
    {items : List (Surface × ResourceEntry)} (listed : ∀ item ∈ items, item.1 = surface)
    {type : TypeDescriptor} :
    type ∈ (items.foldl addEntry catalog).types ↔ type ∈ catalog.types ∨
      type.key ∉ catalog.types.map TypeDescriptor.key ∧
        ∃ item ∈ items, item.2.kind ≠ "" ∧ type = declaredType surface item.2 := by
  induction items generalizing catalog with
  | nil => simp
  | cons item rest ih =>
    obtain ⟨rfl, others⟩ := List.forall_mem_cons.mp listed
    rw [List.foldl_cons, ih (addEntry_indexed indexed item) others, mem_addEntry_types indexed,
      mem_keys_addEntry_types indexed, List.exists_mem_cons_iff]
    constructor
    · rintro ((old | ⟨fresh, told⟩) | ⟨fresh, later⟩)
      · exact Or.inl old
      · exact Or.inr ⟨fresh, Or.inl told⟩
      · exact Or.inr ⟨fun known => fresh (Or.inl known), Or.inr later⟩
    · rintro (old | ⟨fresh, told | ⟨other, member, named, rfl⟩⟩)
      · exact Or.inl (Or.inl old)
      · exact Or.inl (Or.inr ⟨fresh, told⟩)
      · -- A later entry under the key of this one declares the same type.
        by_cases same : item.2.kind ≠ "" ∧
            (declaredType item.1 other.2).key = (declaredType item.1 item.2).key
        · exact Or.inl (Or.inr ⟨fresh, same.1, declaredType_eq_of_key_eq same.2⟩)
        · refine Or.inr ⟨?_, other, member, named, rfl⟩
          rintro (known | found)
          · exact fresh known
          · exact same found

end Catalog

end ClusterClient
