import Mathlib.Data.List.Nodup

namespace ClusterClient

variable {α κ : Type} [DecidableEq κ] {key : α → κ} {items : List α} {index : List (κ × Nat)}

/-- An index gives the position of every item under its key, and gives nothing else. -/
def IndexedBy (key : α → κ) (items : List α) (index : List (κ × Nat)) : Prop :=
  ∀ k position, index.lookup k = some position ↔ (items[position]?).map key = some k

theorem map_of_key_absent {k : κ} (absent : k ∉ items.map key) (change : α → α) :
    (items.map fun item => if key item = k then change item else item) = items := by
  refine (List.map_congr_left ?_).trans (List.map_id items)
  intro item member
  rw [if_neg fun same => absent (List.mem_map.mpr ⟨item, member, same⟩), id_eq]

/-- Whatever else fits stands behind the first that does. -/
theorem eq_or_of_find? {order : α → α → Prop} {fits : α → Bool} {first other : α}
    (sorted : items.Pairwise order) (found : items.find? fits = some first)
    (member : other ∈ items) (fitting : fits other = true) : other = first ∨ order first other := by
  obtain ⟨-, before, after, parted, passed⟩ := List.find?_eq_some_iff_append.mp found
  rw [parted, List.pairwise_append, List.pairwise_cons] at sorted
  rw [parted, List.mem_append, List.mem_cons] at member
  rcases member with early | same | late
  · exact absurd fitting (by simpa using passed other early)
  · exact .inl same
  · exact .inr (sorted.2.1.1 other late)

namespace IndexedBy

theorem nil (key : α → κ) : IndexedBy key [] [] := by
  intro k position
  simp

theorem lookup_eq_none_iff (indexed : IndexedBy key items index) (k : κ) :
    index.lookup k = none ↔ k ∉ items.map key := by
  constructor
  · intro absent member
    obtain ⟨position, at_position⟩ := List.mem_iff_getElem?.mp member
    rw [List.getElem?_map] at at_position
    rw [(indexed k position).mpr at_position] at absent
    cases absent
  · intro absent
    cases found : index.lookup k with
    | none => rfl
    | some position =>
      have at_position := (indexed k position).mp found
      rw [← List.getElem?_map] at at_position
      exact absurd (List.mem_of_getElem? at_position) absent

/-- Items under one key stand in one place. -/
theorem position_unique (indexed : IndexedBy key items index) {k : κ} {first second : Nat}
    (at_first : (items[first]?).map key = some k) (at_second : (items[second]?).map key = some k) :
    first = second := by
  have found := (indexed k first).mpr at_first
  rw [(indexed k second).mpr at_second] at found
  exact (Option.some.inj found).symm

theorem eq_of_key_eq (indexed : IndexedBy key items index) {first second : α}
    (firstMember : first ∈ items) (secondMember : second ∈ items)
    (same : key first = key second) : first = second := by
  obtain ⟨i, at_i⟩ := List.mem_iff_getElem?.mp firstMember
  obtain ⟨j, at_j⟩ := List.mem_iff_getElem?.mp secondMember
  have together : i = j := indexed.position_unique (k := key second) (by simp [at_i, same]) (by simp [at_j])
  rw [together, at_j] at at_i
  exact (Option.some.inj at_i).symm

theorem push (indexed : IndexedBy key items index) {item : α}
    (fresh : index.lookup (key item) = none) :
    IndexedBy key (items ++ [item]) ((key item, items.length) :: index) := by
  have absent := (indexed.lookup_eq_none_iff _).mp fresh
  intro k position
  rw [List.lookup_cons]
  by_cases same : k = key item
  · subst same
    rw [beq_self_eq_true]
    constructor
    · rintro ⟨⟩
      simp
    · intro at_position
      rw [List.getElem?_append] at at_position
      split at at_position
      · next within =>
        rw [← List.getElem?_map] at at_position
        exact absurd (List.mem_of_getElem? at_position) absent
      · next beyond =>
        obtain ⟨_, found, _⟩ := Option.map_eq_some_iff.mp at_position
        obtain ⟨bound, _⟩ := List.getElem?_eq_some_iff.mp found
        simp only [List.length_singleton] at bound
        exact congrArg some (by omega)
  · rw [beq_false_of_ne same]
    refine (indexed k position).trans ?_
    rw [List.getElem?_append]
    split
    · rfl
    · next beyond =>
      have nothing : items[position]? = none := List.getElem?_eq_none (Nat.le_of_not_lt beyond)
      rw [nothing]
      cases later : [item][position - items.length]? with
      | none => rfl
      | some other =>
        have : other = item := by
          have member := List.mem_of_getElem? later
          simpa using member
        simp [this, Ne.symm same]

theorem modify (indexed : IndexedBy key items index) {change : α → α}
    (keeps : ∀ item, key (change item) = key item) (place : Nat) :
    IndexedBy key (items.modify place change) index := by
  intro k position
  rw [indexed k position, List.getElem?_modify, Option.map_eq_map, Option.map_map]
  split <;> simp [Function.comp_def, keeps]

/-- A change at the position of a key is a change of the items under that key. -/
theorem modify_eq_map (indexed : IndexedBy key items index) {k : κ} {place : Nat}
    (found : index.lookup k = some place) (change : α → α) :
    items.modify place change = items.map fun item => if key item = k then change item else item := by
  have at_place := (indexed k place).mp found
  apply List.ext_getElem?
  intro position
  rw [List.getElem?_modify, List.getElem?_map]
  cases at_position : items[position]? with
  | none => rfl
  | some item =>
    by_cases here : place = position
    · subst here
      have same : key item = k := by simpa [at_position] using at_place
      simp [same]
    · have other : key item ≠ k := fun same =>
        here (indexed.position_unique at_place (by rw [at_position, Option.map_some, same]))
      simp [here, other]

/-- Looking a key up is looking for an item under it. -/
theorem lookup_bind (indexed : IndexedBy key items index) (k : κ) :
    ((index.lookup k).bind fun position => items[position]?) = items.find? (key · = k) := by
  cases found : index.lookup k with
  | none =>
    have absent := (indexed.lookup_eq_none_iff k).mp found
    rw [Option.bind_none, eq_comm, List.find?_eq_none]
    intro item member same
    exact absent (List.mem_map.mpr ⟨item, member, by simpa using same⟩)
  | some position =>
    have at_position := (indexed k position).mp found
    obtain ⟨item, there, same⟩ := Option.map_eq_some_iff.mp at_position
    rw [Option.bind_some, there, eq_comm, List.find?_eq_some_iff_getElem]
    obtain ⟨bound, value⟩ := List.getElem?_eq_some_iff.mp there
    refine ⟨by simpa using same, position, bound, value, ?_⟩
    intro earlier before
    have distinct : key items[earlier] ≠ k := by
      intro equal
      have at_earlier : (items[earlier]?).map key = some k := by
        rw [List.getElem?_eq_getElem (Nat.lt_trans before bound), Option.map_some, equal]
      exact Nat.ne_of_lt before (indexed.position_unique at_earlier at_position)
    simpa using distinct

end IndexedBy

end ClusterClient
