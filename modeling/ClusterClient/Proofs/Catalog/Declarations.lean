import ClusterClient.Proofs.Catalog.Types
import Mathlib.Data.List.Induction

namespace ClusterClient

namespace Catalog

/-- Whether an entry of a surface declares the type of a key. -/
def declares (key : TypeKey) (item : Surface × ResourceEntry) : Bool :=
  item.2.kind ≠ "" ∧ key = (declaredType item.1 item.2).key

theorem declares_iff {key : TypeKey} {item : Surface × ResourceEntry} :
    declares key item = true ↔ item.2.kind ≠ "" ∧ key = (declaredType item.1 item.2).key := by
  rw [declares, decide_eq_true_iff]

theorem mem_keys_foldl_types (items : List (Surface × ResourceEntry)) {key : TypeKey} :
    key ∈ (items.foldl addEntry {}).types.map TypeDescriptor.key ↔
      ∃ item ∈ items, declares key item = true := by
  induction items using List.reverseRecOn with
  | nil => simp
  | append_singleton items item ih =>
    rw [List.foldl_append, List.foldl_cons, List.foldl_nil,
      mem_keys_addEntry_types (foldl_addEntry_indexed indexed_empty items), ih]
    simp only [List.mem_append, List.mem_singleton, or_and_right, exists_or, exists_eq_left,
      declares_iff]

/-- Of the entries of all surfaces, the first to declare a key tells the type under it. -/
theorem mem_foldl_types_iff_find? (items : List (Surface × ResourceEntry)) {type : TypeDescriptor} :
    type ∈ (items.foldl addEntry {}).types ↔
      ∃ item, items.find? (declares type.key) = some item ∧ type = declaredType item.1 item.2 := by
  induction items using List.reverseRecOn with
  | nil => simp
  | append_singleton items item ih =>
    rw [List.foldl_append, List.foldl_cons, List.foldl_nil,
      mem_addEntry_types (foldl_addEntry_indexed indexed_empty items), ih, mem_keys_foldl_types,
      List.find?_append]
    cases found : items.find? (declares type.key) with
    | some first =>
      have told : ∃ item ∈ items, declares type.key item = true :=
        ⟨first, List.mem_of_find?_eq_some found, List.find?_some found⟩
      simp [told]
    | none =>
      have untold : ¬ ∃ item ∈ items, declares type.key item = true := by
        simpa using List.find?_eq_none.mp found
      rw [Option.none_or, List.find?_singleton]
      constructor
      · rintro (⟨_, none, -⟩ | ⟨-, named, rfl⟩)
        · cases none
        · exact ⟨item, if_pos (declares_iff.mpr ⟨named, rfl⟩), rfl⟩
      · rintro ⟨other, told, same⟩
        obtain ⟨declared, only⟩ := Option.ite_none_right_eq_some.mp told
        cases only
        exact .inr ⟨untold, (declares_iff.mp declared).1, same⟩

end Catalog

end ClusterClient
