import ClusterClient.Capability

namespace ClusterClient.Capability

/-- Capabilities by kind, each kind once. -/
abbrev Record := List (CapabilityKind × Capability)

namespace Record

def get? (record : Record) (kind : CapabilityKind) : Option Capability := record.lookup kind

def has (record : Record) (kind : CapabilityKind) : Bool := (record.get? kind).isSome

/-- Enter a capability under its own kind. It takes the place of an earlier one. -/
def enter (record : Record) (capability : Capability) : Record :=
  (capability.kind, capability) :: record.filter (·.1 != capability.kind)

/-- The kinds of a record, in the order of declaration. -/
def kinds (record : Record) : List CapabilityKind := CapabilityKind.all.filter record.has

end Record

/-- The factories from `position` on, tried in order. One whose announced kind is in the record is
passed over. The positions of the others come back too. -/
def consult (context : Context) (record : Record) (position : Nat) :
    List Factory → Record × List Nat
  | [] => (record, [])
  | factory :: rest =>
    if record.has factory.kind then consult context record (position + 1) rest
    else
      let entered := (factory.create context).elim record record.enter
      let (final, consulted) := consult context entered (position + 1) rest
      (final, position :: consulted)

/-- The capabilities of one owner. They are negotiated when one of them is first asked for. -/
structure Registry where
  factories : List Factory
  context : Context
  record : Option Record := none
  /-- The positions of the factories that have run so far, in order. -/
  consulted : List Nat := []

namespace Registry

def ofFactories (factories : List Factory) (context : Context) : Registry := { factories, context }

def isPopulated (registry : Registry) : Bool := registry.record.isSome

/-- The record, negotiated now if it has not been, and the registry that holds it. -/
def populate (registry : Registry) : Record × Registry :=
  match registry.record with
  | some record => (record, registry)
  | none =>
    let (record, consulted) := consult registry.context [] 0 registry.factories
    (record, { registry with
      record := some record
      consulted := registry.consulted ++ consulted })

/-- The positions of the factories that have run since an earlier state. -/
def consultedSince (registry earlier : Registry) : List Nat :=
  registry.consulted.drop earlier.consulted.length

def supports (kind : CapabilityKind) (registry : Registry) : Bool × Registry :=
  let (record, registry) := registry.populate
  (record.has kind, registry)

def get? (kind : CapabilityKind) (registry : Registry) : Option Capability × Registry :=
  let (record, registry) := registry.populate
  (record.get? kind, registry)

/-- Run a visitor on a capability, or fall back. -/
def visit {α : Type} (kind : CapabilityKind) (visitor : Capability → α) (fallback : α)
    (registry : Registry) : α × Registry :=
  let (record, registry) := registry.populate
  ((record.get? kind).elim fallback visitor, registry)

def kinds (registry : Registry) : List CapabilityKind × Registry :=
  let (record, registry) := registry.populate
  (record.kinds, registry)

/-- All capabilities, in the order of their kinds. -/
def toList (registry : Registry) : List Capability × Registry :=
  let (record, registry) := registry.populate
  (record.kinds.filterMap record.get?, registry)

end Registry

end ClusterClient.Capability
