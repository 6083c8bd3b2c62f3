import ClusterClient.Capability.Registry
import Mathlib.Data.List.Induction
import Mathlib.Data.List.Nodup

namespace ClusterClient.Capability

namespace Record

theorem get?_enter (record : Record) (capability : Capability) (kind : CapabilityKind) :
    (record.enter capability).get? kind =
      if capability.kind = kind then some capability else record.get? kind := by
  have others : (record.filter (·.1 != capability.kind)).lookup kind =
      if capability.kind = kind then none else record.lookup kind := by
    induction record with
    | nil => simp
    | cons entry rest ih => grind
  rw [get?, enter, List.lookup_cons, others]
  by_cases same : capability.kind = kind
  · simp [same]
  · have unequal : (kind == capability.kind) = false := by simpa using Ne.symm same
    simp [same, unequal, get?]

/-- What a record is after a factory has had its turn. -/
def offer (context : Context) (record : Record) (factory : Factory) : Record :=
  if record.has factory.kind then record else (factory.create context).elim record record.enter

end Record

/-- Positions aside, the factories have their turns one after the other. -/
theorem consult_record (context : Context) (record : Record) (position : Nat)
    (factories : List Factory) :
    (consult context record position factories).1 = factories.foldl (Record.offer context) record := by
  induction factories generalizing record position with
  | nil => rfl
  | cons factory rest ih =>
    rw [consult, List.foldl_cons, Record.offer]
    split
    · exact ih record (position + 1)
    · exact ih _ (position + 1)

namespace Factory

/-- A factory that returns nothing but capabilities of the kind that it is announced for. -/
def IsHonest (factory : Factory) : Prop :=
  ∀ context capability, factory.create context = some capability → capability.kind = factory.kind

/-- What a factory returns, if it is of a kind. -/
def createOf (context : Context) (kind : CapabilityKind) (factory : Factory) : Option Capability :=
  (factory.create context).filter (·.kind = kind)

def Returns (context : Context) (kind : CapabilityKind) (factory : Factory) : Prop :=
  ∃ capability, factory.create context = some capability ∧ capability.kind = kind

/-- A factory that returns one capability in every context. -/
def constant (kind : CapabilityKind) (capability : Capability) : Factory where
  kind := kind
  create _ := some capability

variable {context : Context} {kind : CapabilityKind} {factory : Factory} {capability : Capability}

theorem createOf_eq_some_iff : factory.createOf context kind = some capability ↔
    factory.create context = some capability ∧ capability.kind = kind := by
  simp [createOf, Option.filter_eq_some_iff]

theorem createOf_eq_none_iff : factory.createOf context kind = none ↔ ¬ factory.Returns context kind := by
  simp [createOf, Returns, Option.filter_eq_none_iff]

theorem createOf_of_create (created : factory.create context = some capability) :
    factory.createOf context kind = if capability.kind = kind then some capability else none := by
  simp [createOf, created, Option.filter_some]

end Factory

/-- What the first factory to return a capability of a kind returns. -/
def firstOf (context : Context) (kind : CapabilityKind) (factories : List Factory) :
    Option Capability := factories.findSome? (Factory.createOf context kind)

/-- The first factory that returns a capability of a kind decides what a registry holds for the kind,
and a registry holds nothing only for the kinds that no factory returns. -/
structure FirstWins (context : Context) (factories : List Factory) : Prop where
  held : ∀ kind, ((Registry.ofFactories factories context).get? kind).1 = firstOf context kind factories
  nothing : ∀ kind, ((Registry.ofFactories factories context).get? kind).1 = none ↔
    ∀ factory ∈ factories, ¬ factory.Returns context kind

/-- Whenever a factory returns a capability, it is announced for a kind that one before it has
returned exactly if one before it has returned the kind of the capability. -/
def KindsAgree (context : Context) (factories : List Factory) : Prop :=
  ∀ before factory after capability, factories = before ++ factory :: after →
    factory.create context = some capability →
    ((∃ earlier ∈ before, earlier.Returns context factory.kind) ↔
      ∃ earlier ∈ before, earlier.Returns context capability.kind)

section

variable {context : Context} {kind : CapabilityKind} {factories : List Factory} {factory : Factory}
  {capability : Capability}

theorem firstOf_eq_none_iff :
    firstOf context kind factories = none ↔ ∀ factory ∈ factories, ¬ factory.Returns context kind := by
  simp only [firstOf, List.findSome?_eq_none_iff, Factory.createOf_eq_none_iff]

theorem firstOf_ne_none_iff :
    firstOf context kind factories ≠ none ↔ ∃ factory ∈ factories, factory.Returns context kind := by
  rw [ne_eq, firstOf_eq_none_iff]
  push Not
  rfl

theorem firstOf_append_singleton (context : Context) (kind : CapabilityKind)
    (factories : List Factory) (factory : Factory) :
    firstOf context kind (factories ++ [factory]) =
      (firstOf context kind factories).or (factory.createOf context kind) := by
  simp [firstOf, List.findSome?_append]

theorem exists_of_firstOf (first : firstOf context kind factories = some capability) :
    ∃ factory ∈ factories, factory.create context = some capability ∧ capability.kind = kind := by
  obtain ⟨factory, member, created⟩ := List.exists_of_findSome?_eq_some first
  exact ⟨factory, member, Factory.createOf_eq_some_iff.mp created⟩

/-- A factory that is not passed over replaces what the record holds for the kind that it returns. -/
theorem get?_offer (record : Record) : (record.offer context factory).get? kind =
    if record.has factory.kind then record.get? kind
    else (factory.createOf context kind).or (record.get? kind) := by
  unfold Record.offer
  split
  · rfl
  · cases created : factory.create context with
    | none =>
      have silent : factory.createOf context kind = none := by rw [Factory.createOf, created]; rfl
      rw [silent, Option.none_or, Option.elim_none]
    | some capability =>
      rw [Factory.createOf_of_create created, Option.elim_some, Record.get?_enter]
      split
      · rw [Option.some_or]
      · rw [Option.none_or]

theorem get?_ofFactories (context : Context) (factories : List Factory) (kind : CapabilityKind) :
    ((Registry.ofFactories factories context).get? kind).1
      = (factories.foldl (Record.offer context) []).get? kind := by
  rw [← consult_record context [] 0]
  rfl

theorem firstWins_iff : FirstWins context factories ↔ ∀ kind,
    (factories.foldl (Record.offer context) []).get? kind = firstOf context kind factories := by
  constructor
  · intro wins kind
    rw [← get?_ofFactories, wins.held]
  · intro held
    refine ⟨fun kind => by rw [get?_ofFactories, held], fun kind => ?_⟩
    rw [get?_ofFactories, held, firstOf_eq_none_iff]

theorem has_iff_of_firstWins (wins : FirstWins context factories) (kind : CapabilityKind) :
    (factories.foldl (Record.offer context) []).has kind ↔
      ∃ factory ∈ factories, factory.Returns context kind := by
  rw [Record.has, firstWins_iff.mp wins, Option.isSome_iff_ne_none, firstOf_ne_none_iff]

theorem exists_of_get? (held : (factories.foldl (Record.offer context) []).get? kind = some capability) :
    ∃ factory ∈ factories, factory.create context = some capability ∧ capability.kind = kind := by
  induction factories using List.reverseRecOn with
  | nil => cases held
  | append_singleton factories factory ih =>
    have earlier (old : (factories.foldl (Record.offer context) []).get? kind = some capability) :
        ∃ other ∈ factories ++ [factory],
          other.create context = some capability ∧ capability.kind = kind := by
      obtain ⟨other, member, returned⟩ := ih old
      exact ⟨other, List.mem_append_left _ member, returned⟩
    rw [List.foldl_append, List.foldl_cons, List.foldl_nil, get?_offer] at held
    split at held
    · exact earlier held
    · rcases Option.or_eq_some_iff.mp held with own | ⟨-, old⟩
      · exact ⟨factory, List.mem_append_right _ List.mem_cons_self,
          Factory.createOf_eq_some_iff.mp own⟩
      · exact earlier old

theorem kindsAgree_append_singleton : KindsAgree context (factories ++ [factory]) ↔
    KindsAgree context factories ∧ ∀ capability, factory.create context = some capability →
      ((∃ earlier ∈ factories, earlier.Returns context factory.kind) ↔
        ∃ earlier ∈ factories, earlier.Returns context capability.kind) := by
  constructor
  · intro agree
    refine ⟨fun before other after capability split created => ?_, fun capability created => ?_⟩
    · exact agree before other (after ++ [factory]) capability (by simp [split]) created
    · exact agree factories factory [] capability rfl created
  · rintro ⟨agree, last⟩ before other after capability split created
    rcases List.eq_nil_or_concat after with rfl | ⟨after, final, rfl⟩
    · obtain ⟨rfl, same⟩ := List.append_inj' split rfl
      cases same
      exact last capability created
    · rw [List.concat_eq_append, ← List.cons_append, ← List.append_assoc] at split
      obtain ⟨rfl, _⟩ := List.append_inj' split rfl
      exact agree before other after capability rfl created

/-- One more factory leaves the rule in force if its kinds agree. -/
theorem FirstWins.append_singleton (wins : FirstWins context factories)
    (agrees : ∀ capability, factory.create context = some capability →
      ((∃ earlier ∈ factories, earlier.Returns context factory.kind) ↔
        ∃ earlier ∈ factories, earlier.Returns context capability.kind)) :
    FirstWins context (factories ++ [factory]) := by
  refine firstWins_iff.mpr fun kind => ?_
  rw [List.foldl_append, List.foldl_cons, List.foldl_nil, get?_offer, firstWins_iff.mp wins kind,
    firstOf_append_singleton]
  cases returned : factory.createOf context kind with
  | none => rw [Option.none_or, Option.or_none, ite_self]
  | some capability =>
    obtain ⟨created, same⟩ := Factory.createOf_eq_some_iff.mp returned
    have agree := agrees capability created
    rw [← has_iff_of_firstWins wins, ← firstOf_ne_none_iff, same] at agree
    -- Passed over, the factory is not the first to return the kind; else it is.
    split
    · next known =>
      obtain ⟨first, found⟩ := Option.ne_none_iff_exists'.mp (agree.mp known)
      rw [found, Option.some_or]
    · next unknown =>
      have silent : firstOf context kind factories = none := not_not.mp (mt agree.mpr unknown)
      rw [silent, Option.or_none, Option.none_or]

/-- A factory that returns something new cannot bring the rule into force. -/
theorem FirstWins.of_append_singleton (wins : FirstWins context (factories ++ [factory]))
    (fresh : ∀ capability, factory.create context = some capability →
      ∀ earlier ∈ factories, earlier.create context ≠ some capability) :
    FirstWins context factories := by
  refine firstWins_iff.mpr fun kind => ?_
  have held := firstWins_iff.mp wins kind
  rw [List.foldl_append, List.foldl_cons, List.foldl_nil, get?_offer, firstOf_append_singleton] at held
  cases first : firstOf context kind factories with
  | none =>
    refine Option.eq_none_iff_forall_ne_some.mpr fun capability old => ?_
    obtain ⟨factory, member, returned⟩ := exists_of_get? old
    exact firstOf_eq_none_iff.mp first factory member ⟨capability, returned⟩
  | some capability =>
    rw [first, Option.some_or] at held
    split at held
    · exact held
    · rcases Option.or_eq_some_iff.mp held with again | ⟨-, old⟩
      · obtain ⟨earlier, member, created, -⟩ := exists_of_firstOf first
        exact absurd created (fresh capability (Factory.createOf_eq_some_iff.mp again).1 earlier member)
      · exact old

/-- Where the rule stays in force, the kinds of a factory that returns something new agree. -/
theorem FirstWins.agrees (before : FirstWins context factories)
    (wins : FirstWins context (factories ++ [factory]))
    (created : factory.create context = some capability)
    (fresh : ∀ earlier ∈ factories, earlier.create context ≠ some capability) :
    (∃ earlier ∈ factories, earlier.Returns context factory.kind) ↔
      ∃ earlier ∈ factories, earlier.Returns context capability.kind := by
  have held := firstWins_iff.mp wins capability.kind
  rw [List.foldl_append, List.foldl_cons, List.foldl_nil, get?_offer, firstWins_iff.mp before,
    firstOf_append_singleton, Factory.createOf_of_create created, if_pos rfl] at held
  rw [← has_iff_of_firstWins before, ← firstOf_ne_none_iff]
  constructor
  · intro known silent
    rw [if_pos known, silent, Option.none_or] at held
    cases held
  · intro returned
    -- A factory that is not passed over would replace what the first one has returned.
    by_contra unknown
    obtain ⟨first, found⟩ := Option.ne_none_iff_exists'.mp returned
    rw [if_neg unknown, Option.some_or, found, Option.some_or] at held
    obtain ⟨earlier, member, again, -⟩ := exists_of_firstOf found
    exact fresh earlier member (again.trans held.symm)

theorem firstWins_of_kindsAgree (agree : KindsAgree context factories) :
    FirstWins context factories := by
  induction factories using List.reverseRecOn with
  | nil => exact firstWins_iff.mpr fun kind => rfl
  | append_singleton factories factory ih =>
    obtain ⟨before, last⟩ := kindsAgree_append_singleton.mp agree
    exact (ih before).append_singleton last

theorem kindsAgree_of_firstWins (distinct : (factories.filterMap (·.create context)).Nodup)
    (wins : FirstWins context factories) : KindsAgree context factories := by
  induction factories using List.reverseRecOn with
  | nil => exact fun before factory after capability split => by simp at split
  | append_singleton factories factory ih =>
    rw [List.filterMap_append, List.nodup_append] at distinct
    obtain ⟨distinct, -, apart⟩ := distinct
    have fresh : ∀ capability, factory.create context = some capability →
        ∀ earlier ∈ factories, earlier.create context ≠ some capability := by
      intro capability created earlier member again
      exact apart capability (List.mem_filterMap.mpr ⟨earlier, member, again⟩) capability
        (List.mem_filterMap.mpr ⟨factory, List.mem_singleton_self _, created⟩) rfl
    have before := wins.of_append_singleton fresh
    exact kindsAgree_append_singleton.mpr ⟨ih distinct before,
      fun capability created => before.agrees wins created (fresh capability created)⟩

theorem kindsAgree_of_isHonest (honest : ∀ factory ∈ factories, factory.IsHonest) :
    KindsAgree context factories := by
  intro before factory after capability split created
  have member : factory ∈ factories := by simp [split]
  rw [honest factory member context capability created]

end

/-- For every list of factories a registry holds only what one of them returned, under its own kind.
The first one wins if the kinds agree, and only then if no capability is returned twice. Factories
that return what they are announced for always agree. -/
theorem ofFactories_firstWins (context : Context) (factories : List Factory) :
    (∀ kind capability, ((Registry.ofFactories factories context).get? kind).1 = some capability →
      ∃ factory ∈ factories, factory.create context = some capability ∧ capability.kind = kind) ∧
    (KindsAgree context factories → FirstWins context factories) ∧
    ((factories.filterMap (·.create context)).Nodup →
      (FirstWins context factories ↔ KindsAgree context factories)) ∧
    ((∀ factory ∈ factories, factory.IsHonest) → FirstWins context factories) := by
  refine ⟨fun kind capability held => ?_, firstWins_of_kindsAgree, fun distinct => ?_,
    fun honest => firstWins_of_kindsAgree (kindsAgree_of_isHonest honest)⟩
  · rw [get?_ofFactories] at held
    exact exists_of_get? held
  · exact ⟨kindsAgree_of_firstWins distinct, firstWins_of_kindsAgree⟩

theorem ofFactories_firstWins_scale :
    let first := Factory.constant .scale (.subresource .scale "first")
    let second := Factory.constant .scale (.subresource .scale "second")
    ((Registry.ofFactories [first, second] {}).get? .scale).1 = some (.subresource .scale "first") ∧
      (∃ factory ∈ [first, second], factory.create {} = some (.subresource .scale "first")) ∧
      FirstWins {} [first, second] ∧ KindsAgree {} [first, second] := by
  intro first second
  have honest : ∀ factory ∈ [first, second], factory.IsHonest := by
    rintro factory member context capability created
    rcases List.mem_pair.mp member with rfl | rfl <;> cases created <;> rfl
  have distinct : ([first, second].filterMap (·.create {})).Nodup := by decide +kernel
  have held : ((Registry.ofFactories [first, second] {}).get? .scale).1
      = some (.subresource .scale "first") := by decide +kernel
  obtain ⟨returned, wins, agree, always⟩ := ofFactories_firstWins {} [first, second]
  have agrees := (agree distinct).mp (always honest)
  obtain ⟨factory, member, created, -⟩ := returned .scale _ held
  exact ⟨held, ⟨factory, member, created⟩, wins agrees, agrees⟩

/-- A factory that is announced for one kind and returns another replaces what an earlier one has
returned, and is passed over for a kind that it does not return. -/
theorem not_firstWins_of_otherKinds :
    let scales (announced : CapabilityKind) (name : String) :=
      Factory.constant announced (.subresource .scale name)
    let logs := Factory.constant .scale (.subresource .podLogs "log")
    (((Registry.ofFactories [scales .podLogs "first", scales .podExec "second"] {}).get? .scale).1
        = some (.subresource .scale "second") ∧
      firstOf {} .scale [scales .podLogs "first", scales .podExec "second"]
        = some (.subresource .scale "first") ∧
      ¬ FirstWins {} [scales .podLogs "first", scales .podExec "second"]) ∧
    ((Registry.ofFactories [scales .scale "scale", logs] {}).get? .podLogs).1 = none ∧
      firstOf {} .podLogs [scales .scale "scale", logs] = some (.subresource .podLogs "log") ∧
      ¬ FirstWins {} [scales .scale "scale", logs] := by
  intro scales logs
  refine ⟨⟨by decide +kernel, by decide +kernel, fun wins => ?_⟩,
    by decide +kernel, by decide +kernel, fun wins => ?_⟩
  · exact absurd (wins.held .scale) (by decide +kernel)
  · exact absurd (wins.held .podLogs) (by decide +kernel)

end ClusterClient.Capability
