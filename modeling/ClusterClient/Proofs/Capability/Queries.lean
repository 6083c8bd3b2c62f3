import ClusterClient.Proofs.Capability.Precedence

namespace ClusterClient

theorem CapabilityKind.mem_all (kind : CapabilityKind) : kind ∈ CapabilityKind.all := by
  cases kind <;> decide

/-- The kinds are listed as they are declared. -/
theorem CapabilityKind.all_ordered : CapabilityKind.all.Pairwise (·.ctorIdx < ·.ctorIdx) := by
  decide

namespace Capability

namespace Record

/-- Some capabilities entered one after the other. -/
def ofList (capabilities : List Capability) : Record := capabilities.foldl Record.enter []

variable {record : Record} {kind : CapabilityKind} {capability : Capability}

theorem ofList_append_singleton (capabilities : List Capability) (capability : Capability) :
    ofList (capabilities ++ [capability]) = (ofList capabilities).enter capability := by
  rw [ofList, List.foldl_append]
  rfl

theorem kind_of_get?_ofList {capabilities : List Capability}
    (held : (ofList capabilities).get? kind = some capability) :
    capability ∈ capabilities ∧ capability.kind = kind := by
  induction capabilities using List.reverseRecOn with
  | nil => cases held
  | append_singleton capabilities last ih =>
    rw [ofList_append_singleton, get?_enter] at held
    split at held
    · next same =>
      cases held
      exact ⟨List.mem_append_right _ List.mem_cons_self, same⟩
    · obtain ⟨member, same⟩ := ih held
      exact ⟨List.mem_append_left _ member, same⟩

theorem has_eq_true_iff : record.has kind = true ↔ ∃ capability, record.get? kind = some capability :=
  Option.isSome_iff_exists

theorem mem_kinds_iff : kind ∈ record.kinds ↔ ∃ capability, record.get? kind = some capability := by
  rw [kinds, List.mem_filter, has_eq_true_iff, and_iff_right kind.mem_all]

theorem kinds_ordered (record : Record) : record.kinds.Pairwise (·.ctorIdx < ·.ctorIdx) :=
  CapabilityKind.all_ordered.filter _

end Record

/-- What the factories at some positions return, in this order. -/
def returned (context : Context) (factories : List Factory) (positions : List Nat) :
    List Capability :=
  positions.filterMap fun position => factories[position]?.bind (·.create context)

/-- The positions of the factories that run: in order of registration, each once at most, and all but
those announced for a kind that is in the record by then. -/
structure Consults (context : Context) (factories : List Factory) (consulted : List Nat) : Prop where
  ordered : consulted.Pairwise (· < ·)
  mem_iff : ∀ position, position ∈ consulted ↔ ∃ factory, factories[position]? = some factory ∧
    (Record.ofList (returned context factories (consulted.filter (· < position)))).has factory.kind
      = false

section

variable {context : Context} {factories : List Factory} {factory : Factory} {positions : List Nat}

/-- One more factory at the end runs last, unless its kind is in the record by then. -/
theorem consult_append_singleton (context : Context) (record : Record) (position : Nat)
    (factories : List Factory) (factory : Factory) :
    (consult context record position (factories ++ [factory])).2 =
      (consult context record position factories).2 ++
        if (consult context record position factories).1.has factory.kind then []
        else [position + factories.length] := by
  induction factories generalizing record position with
  | nil =>
    rw [List.nil_append, consult, consult]
    split <;> rfl
  | cons first rest ih =>
    have next : position + 1 + rest.length = position + (rest.length + 1) := by omega
    simp only [List.cons_append, consult, List.length_cons]
    split
    · rw [ih, next]
    · rw [ih, next, List.cons_append]

theorem returned_append (context : Context) (factories : List Factory) (before after : List Nat) :
    returned context factories (before ++ after)
      = returned context factories before ++ returned context factories after :=
  List.filterMap_append

theorem returned_of_lt (within : ∀ position ∈ positions, position < factories.length)
    (factory : Factory) :
    returned context (factories ++ [factory]) positions = returned context factories positions := by
  refine List.filterMap_congr fun position member => ?_
  rw [List.getElem?_append_left (within position member)]

theorem returned_length (context : Context) (factories : List Factory) (factory : Factory) :
    returned context (factories ++ [factory]) [factories.length]
      = (factory.create context).toList := by
  simp only [returned, List.filterMap_cons, List.getElem?_concat_length, Option.bind_some,
    List.filterMap_nil]
  cases factory.create context <;> rfl

theorem Consults.lt_length (consults : Consults context factories positions) :
    ∀ position ∈ positions, position < factories.length := by
  intro position member
  obtain ⟨factory, found, -⟩ := (consults.mem_iff position).mp member
  exact (List.getElem?_eq_some_iff.mp found).choose

/-- One more factory at the end is passed over or runs last, and the others run as before. -/
theorem Consults.append_singleton (consults : Consults context factories positions)
    (factory : Factory) :
    Consults context (factories ++ [factory]) (positions ++
      if (Record.ofList (returned context factories positions)).has factory.kind then []
      else [factories.length]) := by
  have within := consults.lt_length
  generalize last : (if (Record.ofList (returned context factories positions)).has factory.kind
    then [] else [factories.length]) = own
  have only : ∀ position ∈ own, position = factories.length := by
    intro position member
    rw [← last] at member
    split at member
    · cases member
    · exact List.mem_singleton.mp member
  refine ⟨List.pairwise_append.mpr ⟨consults.ordered, ?_, fun position member final => ?_⟩,
    fun position => ?_⟩
  · rw [← last]
    split
    · exact .nil
    · exact List.pairwise_singleton ..
  · intro atEnd
    rw [only final atEnd]
    exact within position member
  · -- What a position sees of the record are the positions before it, which are not the new one.
    have before (inside : position ≤ factories.length) :
        returned context (factories ++ [factory]) ((positions ++ own).filter (· < position))
          = returned context factories (positions.filter (· < position)) := by
      have none : own.filter (· < position) = [] := by
        rw [List.filter_eq_nil_iff]
        intro other member
        simpa [only other member] using inside
      rw [List.filter_append, none, List.append_nil]
      exact returned_of_lt (fun other member => within other (List.mem_of_mem_filter member)) _
    rw [List.mem_append]
    rcases Nat.lt_trichotomy position factories.length with inside | rfl | outside
    · have other : position ∉ own := fun member => Nat.ne_of_lt inside (only position member)
      rw [before (Nat.le_of_lt inside), List.getElem?_append_left inside, or_iff_left other, consults.mem_iff]
    · have new : factories.length ∉ positions := fun member => Nat.lt_irrefl _ (within _ member)
      have all : positions.filter (· < factories.length) = positions := by
        simpa [List.filter_eq_self] using within
      rw [before (Nat.le_refl _), List.getElem?_concat_length, all, or_iff_right new, ← last]
      split <;> simp [*]
    · have nothing : (factories ++ [factory])[position]? = none := by
        rw [List.getElem?_eq_none_iff, List.length_append, List.length_singleton]
        exact outside
      rw [nothing]
      refine iff_of_false ?_ (by simp)
      rintro (member | member)
      · exact Nat.lt_asymm outside (within position member)
      · exact Nat.ne_of_gt outside (only position member)

/-- The factories run by the rule, and the record holds what they return. -/
theorem consult_consults (context : Context) (factories : List Factory) :
    Consults context factories (consult context [] 0 factories).2 ∧
      (consult context [] 0 factories).1
        = Record.ofList (returned context factories (consult context [] 0 factories).2) := by
  induction factories using List.reverseRecOn with
  | nil => exact ⟨⟨.nil, by simp [consult]⟩, rfl⟩
  | append_singleton factories factory ih =>
    obtain ⟨consults, made⟩ := ih
    have within := consults.lt_length
    rw [consult_append_singleton, consult_record context [] 0 (factories ++ [factory]),
      List.foldl_append, ← consult_record context [] 0 factories, Nat.zero_add, made]
    refine ⟨consults.append_singleton factory, ?_⟩
    rw [List.foldl_cons, List.foldl_nil, Record.offer, returned_append, returned_of_lt within]
    split
    · exact congrArg Record.ofList (List.append_nil _).symm
    · rw [returned_length]
      cases factory.create context with
      | none => exact congrArg Record.ofList (List.append_nil _).symm
      | some capability => exact (Record.ofList_append_singleton _ capability).symm

end

/-- What may be asked of a registry, by the type of the answer. -/
inductive Query : Type → Type 1 where
  | supports (kind : CapabilityKind) : Query Bool
  | get? (kind : CapabilityKind) : Query (Option Capability)
  | visit {α : Type} (kind : CapabilityKind) (visitor : Capability → α) (fallback : α) : Query α
  | kinds : Query (List CapabilityKind)

def Query.ask {α : Type} (registry : Registry) : Query α → α × Registry
  | supports kind => registry.supports kind
  | get? kind => registry.get? kind
  | visit kind visitor fallback => registry.visit kind visitor fallback
  | kinds => registry.kinds

namespace Registry

/-- A registry after some queries. -/
def after (registry : Registry) (queries : List (Σ α, Query α)) : Registry :=
  queries.foldl (fun registry query => (query.2.ask registry).2) registry

/-- What a registry answers that has been asked something before. -/
def answer {α : Type} (registry : Registry) (before : List (Σ α, Query α)) (query : Query α) : α :=
  (query.ask (registry.after before)).1

/-- The answers of a registry are those of one record, whatever has been asked before: a kind is
supported, visited and listed if the record holds a capability for it, which is of that kind. -/
structure AnswersFrom (registry : Registry) (record : Record) : Prop where
  supports : ∀ before kind, registry.answer before (.supports kind) = true ↔
    ∃ capability, record.get? kind = some capability
  get? : ∀ before kind, registry.answer before (.get? kind) = record.get? kind
  visit : ∀ before kind (α : Type) (visitor : Capability → α) (fallback : α),
    registry.answer before (.visit kind visitor fallback) =
      match record.get? kind with
      | some capability => visitor capability
      | none => fallback
  mem_kinds : ∀ before kind, kind ∈ registry.answer before .kinds ↔
    ∃ capability, record.get? kind = some capability
  kinds_ordered : ∀ before, (registry.answer before .kinds).Pairwise (·.ctorIdx < ·.ctorIdx)
  kind_eq : ∀ kind capability, record.get? kind = some capability → capability.kind = kind

theorem consultedSince_self (registry : Registry) : registry.consultedSince registry = [] :=
  List.drop_length

theorem populate_populate (registry : Registry) :
    registry.populate.2.populate = registry.populate := by
  cases record : registry.record with
  | none => simp only [populate, record]
  | some record' => simp only [populate, record]

/-- Every query negotiates the record, unless an earlier one has. -/
theorem ask_snd (registry : Registry) {α : Type} (query : Query α) :
    (query.ask registry).2 = registry.populate.2 := by
  cases query <;> rfl

theorem after_append_singleton (registry : Registry) (queries : List (Σ α, Query α))
    (query : Σ α, Query α) :
    registry.after (queries ++ [query]) = (registry.after queries).populate.2 := by
  rw [after, List.foldl_append]
  exact ask_snd _ query.2

theorem after_populate (registry : Registry) (queries : List (Σ α, Query α)) :
    (registry.after queries).populate = registry.populate := by
  induction queries using List.reverseRecOn with
  | nil => rfl
  | append_singleton queries query ih => rw [after_append_singleton, populate_populate, ih]

theorem after_of_ne_nil (registry : Registry) {queries : List (Σ α, Query α)}
    (asked : queries ≠ []) : registry.after queries = registry.populate.2 := by
  rcases List.eq_nil_or_concat queries with rfl | ⟨before, last, rfl⟩
  · exact absurd rfl asked
  · rw [List.concat_eq_append, after_append_singleton, after_populate]

theorem answersFrom_populate (registry : Registry) {capabilities : List Capability}
    (made : registry.populate.1 = Record.ofList capabilities) :
    registry.AnswersFrom (Record.ofList capabilities) := by
  have read (before : List (Σ α, Query α)) :
      (registry.after before).populate.1 = Record.ofList capabilities := by
    rw [after_populate, made]
  have listed (before : List (Σ α, Query α)) :
      registry.answer before .kinds = (Record.ofList capabilities).kinds :=
    congrArg Record.kinds (read before)
  have found (before : List (Σ α, Query α)) (kind : CapabilityKind) :
      registry.answer before (.get? kind) = (Record.ofList capabilities).get? kind :=
    congrArg (Record.get? · kind) (read before)
  refine ⟨fun before kind => ?_, found, fun before kind α visitor fallback => ?_,
    fun before kind => ?_, fun before => ?_, fun kind capability held => ?_⟩
  · have told : registry.answer before (.supports kind) = (Record.ofList capabilities).has kind :=
      congrArg (Record.has · kind) (read before)
    rw [told, Record.has_eq_true_iff]
  · have told : registry.answer before (.visit kind visitor fallback)
        = ((Record.ofList capabilities).get? kind).elim fallback visitor :=
      congrArg (fun record => (Record.get? record kind).elim fallback visitor) (read before)
    rw [told]
    cases (Record.ofList capabilities).get? kind <;> rfl
  · rw [listed, Record.mem_kinds_iff]
  · rw [listed]
    exact Record.kinds_ordered _
  · exact (Record.kind_of_get?_ofList held).2

end Registry

/-- Nothing is negotiated before the first query. That query runs the factories by the rule, no later
one runs any, and every answer comes from the record of what they return. -/
theorem ofFactories_negotiates_once (context : Context) (factories : List Factory) :
    let registry := Registry.ofFactories factories context
    registry.isPopulated = false ∧ registry.consulted = [] ∧
    ∃ consulted, Consults context factories consulted ∧
      (∀ queries, queries ≠ [] → (registry.after queries).isPopulated = true ∧
        (registry.after queries).consulted = consulted) ∧
      registry.AnswersFrom (Record.ofList (returned context factories consulted)) := by
  intro registry
  obtain ⟨consults, made⟩ := consult_consults context factories
  refine ⟨rfl, rfl, _, consults, fun queries asked => ?_, registry.answersFrom_populate made⟩
  rw [registry.after_of_ne_nil asked]
  exact ⟨rfl, rfl⟩

/-- A factory is passed over for what an earlier one has returned, not for what that one was
announced for. -/
theorem ofFactories_negotiates_once_scale :
    let first := Factory.constant .podLogs (.subresource .scale "first")
    let second := Factory.constant .scale (.subresource .scale "second")
    let third := Factory.constant .podLogs (.subresource .podLogs "log")
    let registry := Registry.ofFactories [first, second, third] {}
    let queries : List (Σ α, Query α) := [⟨_, .kinds⟩, ⟨_, .supports .podExec⟩]
    queries ≠ [] ∧ (registry.after queries).consulted = [0, 2] ∧
      Consults {} [first, second, third] [0, 2] ∧
      registry.answer queries (.get? .scale) = some (.subresource .scale "first") ∧
      .scale ∈ registry.answer queries .kinds ∧
      registry.answer queries (.visit .scale Capability.subresource? none) = some "first" := by
  intro first second third registry queries
  have asked : queries ≠ [] := List.cons_ne_nil _ _
  obtain ⟨-, -, consulted, consults, ran, answers⟩ :=
    ofFactories_negotiates_once {} [first, second, third]
  have positions : (registry.after queries).consulted = [0, 2] := by decide +kernel
  obtain rfl : consulted = [0, 2] := (ran queries asked).2.symm.trans positions
  have held : registry.answer queries (.get? .scale) = some (.subresource .scale "first") := by
    decide +kernel
  have kept := (answers.get? queries .scale).symm.trans held
  refine ⟨asked, positions, consults, held, (answers.mem_kinds queries .scale).mpr ⟨_, kept⟩, ?_⟩
  rw [answers.visit, kept]
  rfl

end Capability

end ClusterClient
