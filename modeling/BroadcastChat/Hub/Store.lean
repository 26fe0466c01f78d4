/-
# What the hub's tasks share

All tasks of a hub work on one store: the endpoints ever made, the inbound
streams of the sessions, the registry, and the signal that the hub has
stopped. Endpoints and streams are never forgotten, so an identifier stays
good for ever.

Key definitions: `Arrival`, `Inbound`, `Store`, `Store.endpoint`,
`Store.update`, `Store.newEndpoint`.
Key theorems: `Store.endpoint_update_self`, `Store.endpoint_update_of_ne`.
-/
import BroadcastChat.Registry

namespace BroadcastChat

/-! ### Inbound streams -/

/-- What arrives from a session's client. -/
inductive Arrival where
  | message (message : Message)
  /-- The client went away without a word. -/
  | cancelled
  /-- The connection broke. -/
  | failed (reason : String)
  deriving DecidableEq

/-- The wording of an arrival that is no message. -/
def Arrival.complaint? : Arrival → Option String
  | .message _ => none
  | .cancelled => some "inbound stream cancelled by peer"
  | .failed reason => some s!"inbound transport error: {reason}"

/-- What has arrived from a client and is not yet read, oldest first, and whether more may come. -/
structure Inbound where
  arrivals : List Arrival
  isOpen : Bool
  deriving DecidableEq

namespace Inbound

/-- A stream on which nothing has arrived. -/
def new : Inbound := ⟨[], true⟩

/-- A stream that is over. -/
def spent : Inbound := ⟨[], false⟩

/-- Something more arrives. -/
def push (inbound : Inbound) (arrival : Arrival) : Inbound :=
  { inbound with arrivals := inbound.arrivals ++ [arrival] }

/-- Nothing more will come. -/
def finish (inbound : Inbound) : Inbound := { inbound with isOpen := false }

/-- What reading an inbound stream gives. -/
inductive Next where
  | arrival (arrival : Arrival)
  | waiting
  | ended
  deriving DecidableEq

/-- Reads from the stream. -/
def read (inbound : Inbound) : Next × Inbound :=
  match inbound.arrivals with
  | arrival :: rest => (.arrival arrival, { inbound with arrivals := rest })
  | [] => (if inbound.isOpen then .waiting else .ended, inbound)

end Inbound

/-- Which inbound stream. -/
structure InboundId where
  index : Nat
  deriving DecidableEq, Repr

/-! ### The store -/

/-- The state that the tasks of a hub share. -/
structure Store where
  endpoints : Array Endpoint
  inbounds : Array Inbound
  registry : Registry
  stopped : Bool

namespace Store

/-- Nothing has happened yet. -/
def empty : Store := ⟨#[], #[], .empty, false⟩

/-- The endpoint of an identifier. -/
def endpoint (store : Store) (id : EndpointId) : Endpoint :=
  (store.endpoints[id.index]?).getD .gone

/-- Changes one endpoint. -/
def update (store : Store) (id : EndpointId) (f : Endpoint → Endpoint) : Store :=
  { store with endpoints := store.endpoints.modify id.index f }

/-- Makes an endpoint. -/
def newEndpoint (store : Store) (capacity : Nat) : EndpointId × Store :=
  (⟨store.endpoints.size⟩, { store with endpoints := store.endpoints.push (.new capacity) })

/-- The inbound stream of an identifier. -/
def inbound (store : Store) (id : InboundId) : Inbound :=
  (store.inbounds[id.index]?).getD .spent

/-- Changes one inbound stream. -/
def updateInbound (store : Store) (id : InboundId) (f : Inbound → Inbound) : Store :=
  { store with inbounds := store.inbounds.modify id.index f }

/-- Makes an inbound stream. -/
def newInbound (store : Store) : InboundId × Store :=
  (⟨store.inbounds.size⟩, { store with inbounds := store.inbounds.push .new })

/-- Whether an endpoint has been made. -/
def Has (store : Store) (id : EndpointId) : Prop := id.index < store.endpoints.size

theorem endpoint_update_self {store : Store} {id : EndpointId} (f : Endpoint → Endpoint)
    (h : store.Has id) : (store.update id f).endpoint id = f (store.endpoint id) := by
  unfold Has at h
  simp [endpoint, update, h, Array.getElem_modify]

theorem endpoint_update_of_ne {store : Store} {id other : EndpointId} (f : Endpoint → Endpoint)
    (h : other ≠ id) : (store.update id f).endpoint other = store.endpoint other := by
  have : id.index ≠ other.index := fun he => h (by cases id; cases other; simp_all)
  simp [endpoint, update, Array.getElem?_modify, this]

end Store

end BroadcastChat
