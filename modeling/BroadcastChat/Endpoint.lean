/-
# Endpoints

An endpoint is the bounded queue of one connection. Deliveries are queued
without waiting, at most `bound` of them unread, and read in the order they
were queued. The queue has two ends, and either may go: the hub closes it, or
the reader drops its stream. After that nothing is accepted any more. What was
queued before a close can still be read, and then the stream ends, but not
before every wait for the closure that was begun in time has noticed it: such
a wait holds the queue open.

Key definitions: `Endpoint`, `Endpoint.deliver`, `Endpoint.close`,
`Endpoint.isClosed`, `Endpoint.read`, `Endpoint.beginWait`, `Endpoint.pollWait`.
-/
import BroadcastChat.Message

namespace BroadcastChat

/-- Why an endpoint does not take a delivery. -/
inductive Refusal where
  | closed
  | full
  deriving DecidableEq, Repr

/-- The wording of a refusal. -/
def Refusal.message : Refusal → String
  | .closed => "endpoint is closed"
  | .full => "endpoint queue is full"

/-- A bounded queue of deliveries, oldest first. `shut` says that the hub closed it, `dropped`
that its reader is gone, `waits` counts the waits for its closure that hold it open. -/
structure Endpoint where
  bound : Nat
  unread : List Delivery
  shut : Bool
  dropped : Bool
  waits : Nat
  bound_pos : 0 < bound
  unread_le : unread.length ≤ bound

/-- What reading from an endpoint's stream gives. -/
inductive Reading where
  | delivery (delivery : Delivery)
  /-- Nothing yet. -/
  | pending
  /-- Nothing any more. -/
  | ended
  /-- There is no stream to read from. -/
  | dropped
  deriving DecidableEq

namespace Endpoint

/-- A new endpoint; a capacity of zero counts as one. -/
def new (capacity : Nat) : Endpoint where
  bound := max capacity 1
  unread := []
  shut := false
  dropped := false
  waits := 0
  bound_pos := by omega
  unread_le := by simp

/-- An endpoint that takes and holds nothing: both its ends are gone. -/
def gone : Endpoint := { new 1 with shut := true, dropped := true }

/-- Whether either end is gone. -/
def isClosed (endpoint : Endpoint) : Bool := endpoint.shut || endpoint.dropped

theorem length_append_le {queue : List Delivery} {delivery : Delivery} {bound : Nat}
    (h : queue.length < bound) : (queue ++ [delivery]).length ≤ bound := by
  rw [List.length_append]
  exact h

/-- Queues a delivery. -/
def deliver (endpoint : Endpoint) (delivery : Delivery) : Except Refusal Endpoint :=
  if endpoint.isClosed then .error .closed
  else if h : endpoint.unread.length < endpoint.bound then
    .ok { endpoint with
      unread := endpoint.unread ++ [delivery]
      unread_le := length_append_le h }
  else .error .full

/-- Closes the endpoint from the hub's side. -/
def close (endpoint : Endpoint) : Endpoint := { endpoint with shut := true }

/-- Drops the stream. -/
def drop (endpoint : Endpoint) : Endpoint := { endpoint with dropped := true }

/-- Whether the stream is over once everything queued is read. -/
def isFinal (endpoint : Endpoint) : Bool := endpoint.shut && endpoint.waits == 0

/-- How the stream stands when nothing is queued. -/
def standing (endpoint : Endpoint) : Reading :=
  if endpoint.dropped then .dropped else if endpoint.isFinal then .ended else .pending

theorem length_tail_le {delivery : Delivery} {rest : List Delivery} {bound : Nat}
    (h : (delivery :: rest).length ≤ bound) : rest.length ≤ bound :=
  Nat.le_of_succ_le h

/-- Reads from the stream. -/
def read (endpoint : Endpoint) : Reading × Endpoint :=
  if endpoint.dropped then (.dropped, endpoint)
  else
    match h : endpoint.unread with
    | [] => (endpoint.standing, endpoint)
    | delivery :: rest =>
      (.delivery delivery, { endpoint with
        unread := rest
        unread_le := length_tail_le (h ▸ endpoint.unread_le) })

/-- Reads everything that is queued. -/
def readAll (endpoint : Endpoint) : List Delivery × Endpoint :=
  if endpoint.dropped then ([], endpoint)
  else (endpoint.unread, { endpoint with unread := [], unread_le := by simp })

/-- Starts to wait for the closure; a wait that is over at once is not kept. -/
def beginWait (endpoint : Endpoint) : Endpoint :=
  if endpoint.isClosed then endpoint else { endpoint with waits := endpoint.waits + 1 }

/-- Gives up a wait. -/
def endWait (endpoint : Endpoint) : Endpoint := { endpoint with waits := endpoint.waits - 1 }

/-- Looks at a wait, which is over if the endpoint is closed. -/
def pollWait (endpoint : Endpoint) : Endpoint :=
  if endpoint.isClosed then endpoint.endWait else endpoint

end Endpoint

/-- Which endpoint: each has a number of its own, and a later one has a greater number. -/
structure EndpointId where
  index : Nat
  deriving DecidableEq, Repr

namespace EndpointId

/-- The endpoint's number, from one. -/
def value (id : EndpointId) : Nat := id.index + 1

/-- How an endpoint is called in a log. -/
def text (id : EndpointId) : String := s!"ep-{id.value}"

end EndpointId

end BroadcastChat
