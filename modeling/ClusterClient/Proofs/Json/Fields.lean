import ClusterClient.Json.Reader
import Mathlib.Data.List.Induction
import Mathlib.Data.List.Sort

namespace ClusterClient.Json

namespace Fields

/-- Fields in byte order, each once. -/
def IsOrdered (fields : Fields) : Prop := fields.Pairwise (·.1 < ·.1)

variable {fields others : Fields} {name : String} {value : Json}

theorem mem_insert {field : String × Json} (member : field ∈ insert name value fields) :
    field = (name, value) ∨ field ∈ fields := by
  induction fields with
  | nil => exact Or.inl (List.mem_singleton.mp member)
  | cons first rest ih =>
    rw [insert] at member
    split at member
    · rcases List.mem_cons.mp member with own | later
      · exact Or.inl own
      · exact Or.inr (List.mem_cons_of_mem _ later)
    · split at member
      · exact List.mem_cons.mp member
      · rcases List.mem_cons.mp member with rfl | later
        · exact Or.inr List.mem_cons_self
        · exact (ih later).imp_right (List.mem_cons_of_mem _)

theorem IsOrdered.insert (ordered : fields.IsOrdered) (name : String) (value : Json) :
    (insert name value fields).IsOrdered := by
  induction fields with
  | nil => exact List.pairwise_singleton ..
  | cons first rest ih =>
    obtain ⟨other, old⟩ := first
    obtain ⟨least, below⟩ := List.pairwise_cons.mp ordered
    rw [Fields.insert]
    split
    · next same =>
      subst same
      exact List.pairwise_cons.mpr ⟨least, below⟩
    · next different =>
      split
      · next before =>
        refine List.pairwise_cons.mpr ⟨fun field member => ?_, ordered⟩
        rcases List.mem_cons.mp member with rfl | later
        · exact before
        · exact String.lt_trans before (least field later)
      · next behind =>
        refine List.pairwise_cons.mpr ⟨fun field member => ?_, ih below⟩
        rcases mem_insert member with rfl | later
        · exact String.not_le.mp fun reverse =>
            different (String.le_antisymm reverse (String.not_lt.mp behind))
        · exact least field later

theorem ofList_append_singleton (fields : List (String × Json)) (field : String × Json) :
    ofList (fields ++ [field]) = insert field.1 field.2 (ofList fields) := by
  rw [ofList, List.foldl_append]
  rfl

theorem isOrdered_ofList (fields : List (String × Json)) : (ofList fields).IsOrdered := by
  induction fields using List.reverseRecOn with
  | nil => exact .nil
  | append_singleton fields field ih =>
    rw [ofList_append_singleton]
    exact ih.insert field.1 field.2

theorem insert_eq_append (last : ∀ field ∈ fields, field.1 < name) :
    insert name value fields = fields ++ [(name, value)] := by
  induction fields with
  | nil => rfl
  | cons first rest ih =>
    obtain ⟨before, later⟩ := List.forall_mem_cons.mp last
    rw [insert, if_neg (String.ne_of_lt before).symm, if_neg (String.lt_asymm before), ih later,
      List.cons_append]

/-- Fields in order stay as they are. -/
theorem IsOrdered.ofList_eq (ordered : fields.IsOrdered) : ofList fields = fields := by
  induction fields using List.reverseRecOn with
  | nil => rfl
  | append_singleton fields field ih =>
    obtain ⟨earlier, -, last⟩ := List.pairwise_append.mp ordered
    rw [ofList_append_singleton, ih earlier]
    exact insert_eq_append fun other member => last other member field List.mem_cons_self

theorem mem_of_mem_ofList {field : String × Json} {fields : List (String × Json)}
    (member : field ∈ ofList fields) : field ∈ fields := by
  induction fields using List.reverseRecOn with
  | nil => cases member
  | append_singleton fields last ih =>
    rw [ofList_append_singleton] at member
    rcases mem_insert member with rfl | earlier
    · exact List.mem_append_right _ List.mem_cons_self
    · exact List.mem_append_left _ (ih earlier)

theorem mem_of_get? (found : fields.get? name = some value) : (name, value) ∈ fields := by
  obtain ⟨before, after, split, -⟩ := List.lookup_eq_some_iff.mp found
  rw [split]
  exact List.mem_append_right _ List.mem_cons_self

/-- Where each name stands once, a field is what is found under its name. -/
theorem IsOrdered.mem_iff (ordered : fields.IsOrdered) :
    (name, value) ∈ fields ↔ fields.get? name = some value := by
  refine ⟨fun member => ?_, mem_of_get?⟩
  induction fields with
  | nil => cases member
  | cons first rest ih =>
    obtain ⟨other, old⟩ := first
    obtain ⟨least, below⟩ := List.pairwise_cons.mp ordered
    rw [get?_cons]
    rcases List.mem_cons.mp member with same | later
    · cases same
      rw [if_pos rfl]
    · have after : other < name := least _ later
      rw [if_neg (String.ne_of_lt after).symm]
      exact ih below later

/-- Ordered fields are told by what is found under each name. -/
theorem IsOrdered.ext (ordered : fields.IsOrdered) (ordered' : others.IsOrdered)
    (same : ∀ name value, fields.get? name = some value ↔ others.get? name = some value) :
    fields = others := by
  have asymm : Std.Asymm fun field other : String × Json => field.1 < other.1 :=
    ⟨fun _ _ before after => String.lt_asymm before after⟩
  have antisymm : Std.Antisymm fun field other : String × Json => field.1 < other.1 :=
    ⟨fun _ _ before after => absurd after (String.lt_asymm before)⟩
  refine List.Pairwise.eq_of_mem_iff ordered ordered' fun field => ?_
  rw [ordered.mem_iff, ordered'.mem_iff, same]

end Fields

/-- A document whose objects hold their fields in byte order, each once. -/
inductive IsOrdered : Json → Prop where
  | null : IsOrdered null
  | bool (value : Bool) : IsOrdered (bool value)
  | number (value : Number) : IsOrdered (number value)
  | text (value : String) : IsOrdered (text value)
  | list {items : List Json} (each : ∀ item ∈ items, IsOrdered item) : IsOrdered (list items)
  | object {fields : Fields} (ordered : fields.IsOrdered)
      (each : ∀ field ∈ fields, IsOrdered field.2) : IsOrdered (object fields)

theorem IsOrdered.of_field? {json value : Json} {name : String} (ordered : json.IsOrdered)
    (found : json.field? name = some value) : value.IsOrdered := by
  cases ordered with
  | object _ each => exact each _ (Fields.mem_of_get? found)
  | _ => cases found

namespace Tree

mutual

theorem document?_isOrdered : ∀ {tree : Tree} {depth : Nat} {json : Json},
    tree.document? depth = some json → json.IsOrdered
  | .null, _, _, read => by
    cases read
    exact .null
  | .bool value, _, _, read => by
    cases read
    exact .bool value
  | .number value, _, _, read => by
    obtain ⟨number, -, rfl⟩ := Option.map_eq_some_iff.mp read
    exact .number number
  | .text value, _, _, read => by
    obtain ⟨text, -, rfl⟩ := Option.map_eq_some_iff.mp read
    exact .text text
  | .list items, 0, _, read => by cases read
  | .list items, depth + 1, _, read => by
    obtain ⟨values, each, rfl⟩ := Option.map_eq_some_iff.mp read
    exact .list (documents?_isOrdered each)
  | .object fields, 0, _, read => by cases read
  | .object fields, depth + 1, _, read => by
    obtain ⟨members, each, rfl⟩ := Option.map_eq_some_iff.mp read
    refine .object (Fields.isOrdered_ofList members) fun field member => ?_
    exact members?_isOrdered each field (Fields.mem_of_mem_ofList member)

theorem documents?_isOrdered : ∀ {items : List Tree} {depth : Nat} {values : List Json},
    documents? depth items = some values → ∀ value ∈ values, value.IsOrdered
  | [], _, _, read => by
    cases read
    exact fun _ member => by cases member
  | item :: rest, depth, _, read => by
    obtain ⟨first, own, read⟩ := Option.bind_eq_some_iff.mp read
    obtain ⟨others, later, same⟩ := Option.bind_eq_some_iff.mp read
    cases same
    exact List.forall_mem_cons.mpr ⟨document?_isOrdered own, documents?_isOrdered later⟩

theorem members?_isOrdered : ∀ {fields : List (Option String × Tree)} {depth : Nat}
    {members : List (String × Json)},
    members? depth fields = some members → ∀ member ∈ members, member.2.IsOrdered
  | [], _, _, read => by
    cases read
    exact fun _ member => by cases member
  | (name, item) :: rest, depth, _, read => by
    obtain ⟨named, -, read⟩ := Option.bind_eq_some_iff.mp read
    obtain ⟨first, own, read⟩ := Option.bind_eq_some_iff.mp read
    obtain ⟨others, later, same⟩ := Option.bind_eq_some_iff.mp read
    cases same
    exact List.forall_mem_cons.mpr ⟨document?_isOrdered own, members?_isOrdered later⟩

end

end Tree

/-- Reading puts the fields of every object in order. -/
theorem ofText?_isOrdered {text : String} {json : Json} (read : ofText? text = some json) :
    json.IsOrdered := by
  obtain ⟨tree, -, valued⟩ := Option.bind_eq_some_iff.mp read
  exact Tree.document?_isOrdered valued

end ClusterClient.Json
