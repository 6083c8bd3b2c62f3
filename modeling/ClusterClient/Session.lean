import ClusterClient.Capability.Registry
import ClusterClient.Discovery

namespace ClusterClient

/-- What a client keeps between operations. Each of the three cells is filled once, by the first
operation that needs it. -/
structure Session where
  /-- The requests sent so far, in order. -/
  sent : List Http.Request := []
  catalog : Option Catalog := none
  /-- The server's version once it has been asked for; the answer may have been none. -/
  serverVersion : Option (Option ServerVersion) := none
  /-- The capabilities of the client as a whole. -/
  capabilities : Option Capability.Registry := none
  /-- The positions of the factories that have run for them so far, in order. -/
  consulted : List Nat := []

namespace Session

/-- Run an exchange, whose requests are kept. -/
def onWire {α : Type} (exchange : Wire α) : StateM Session α := do
  let session ← get
  let (value, sent) := exchange.run session.sent
  set { session with sent }
  return value

/-- A session whose catalog and server version are known from the start. -/
def pinned (catalog : Catalog) (serverVersion : Option ServerVersion) : Session :=
  { catalog := some catalog, serverVersion := some serverVersion }

def isDiscovered (session : Session) : Bool := session.catalog.isSome

end Session

end ClusterClient
