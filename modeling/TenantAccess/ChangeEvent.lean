import TenantAccess.Statement

/-!
# Change events

A committed write is told to whoever listens.  Listeners have a buffer of limited size: one that
falls behind misses the oldest events and learns how many.
-/

namespace TenantAccess

/-- News of a committed write. -/
structure ChangeEvent where
  resource : Resource
  op : WriteOp
  /-- The tenant of the writer's grant. -/
  clientId : Option ClientId
  siteId : Option SiteId
  /-- Who wrote; nobody for background jobs. -/
  actor : Option IdpId
  requestId : Option Uuid
  rowsAffected : Nat
deriving DecidableEq, Inhabited

/-- The event as a document. -/
def ChangeEvent.toJson (event : ChangeEvent) : Json := .object [
  ("resource", .string event.resource.text),
  ("op", .string event.op.text),
  ("client_id", .ofOption Id.toJson event.clientId),
  ("site_id", .ofOption Id.toJson event.siteId),
  ("actor", .ofOption IdpId.toJson event.actor),
  ("request_id", .ofOption (fun id => .string id.text) event.requestId),
  ("rows_affected", .nat event.rowsAffected)]

/-- The events a listener has not taken yet. -/
structure EventBuffer where
  /-- How many events are kept; nothing for a listener that wants none. -/
  capacity : Option Nat
  /-- The kept events, oldest first. -/
  events : List ChangeEvent := []
  /-- How many older ones were overwritten. -/
  missed : Nat := 0
deriving Inhabited

namespace EventBuffer

/-- The smallest power of two that is not below a number. -/
def roundUp (n : Nat) : Nat := if n ≤ 1 then 1 else 1 <<< (Nat.log2 (n - 1) + 1)

/-- A buffer for at least the given number of events. -/
def ofCapacity (capacity : Option Nat) : EventBuffer := { capacity := capacity.map roundUp }

/-- The buffer after an event; the oldest one gives way when there is no room. -/
def emit (buffer : EventBuffer) (event : ChangeEvent) : EventBuffer :=
  match buffer.capacity with
  | none => buffer
  | some capacity =>
    if buffer.events.length < capacity then { buffer with events := buffer.events ++ [event] }
    else { buffer with events := buffer.events.drop 1 ++ [event], missed := buffer.missed + 1 }

/-- What a listener is told: how many events it missed, and the kept ones. -/
def told (buffer : EventBuffer) : List Json :=
  (if buffer.missed = 0 then [] else [.object [("lagged", .nat buffer.missed)]])
    ++ buffer.events.map ChangeEvent.toJson

/-- The buffer once everything has been told. -/
def taken (buffer : EventBuffer) : EventBuffer := { buffer with events := [], missed := 0 }

end EventBuffer
end TenantAccess
