/-
# Actions and programs

Everything that a task of the hub does is a sequence of actions, each of which
looks at or changes the shared store in one indivisible step: one call on the
registry, one delivery, one close, one look at the stop signal. A program says
which action comes next, given the answers to those before. `Program.run`
performs a program without interruption; since a program is data, one can as
well perform its actions one at a time and let other programs act in between.

Key definitions: `Action`, `Action.Answer`, `Action.perform`, `Program`,
`Program.run`.
Key theorems: `Program.run_pure`, `Program.run_bind`.
-/
import BroadcastChat.Hub.Store

namespace BroadcastChat

/-- One indivisible step of a task. -/
inductive Action where
  /-- Makes an endpoint. -/
  | create (capacity : Nat)
  /-- Registers an endpoint, and learns which other one it supersedes. -/
  | register (name : Name) (endpoint : EndpointId)
  /-- Frees a name if the endpoint still holds it, and learns whether it did. -/
  | removeIfCurrent (name : Name) (endpoint : EndpointId)
  | lookup (name : Name)
  /-- Asks for every binding but that of one name. -/
  | snapshotExcept (name : Name)
  /-- Takes all bindings out of the registry. -/
  | drain
  /-- Tries to queue a delivery. -/
  | deliver (endpoint : EndpointId) (delivery : Delivery)
  /-- Closes an endpoint, and learns whether it was open from the hub's side. -/
  | close (endpoint : EndpointId)
  /-- Asks whether either end of an endpoint is gone. -/
  | isClosed (endpoint : EndpointId)
  /-- Drops an endpoint's stream. -/
  | drop (endpoint : EndpointId)
  /-- Starts to wait for an endpoint's closure. -/
  | beginWait (endpoint : EndpointId)
  /-- Gives up a wait for an endpoint's closure. -/
  | endWait (endpoint : EndpointId)
  /-- Reads from a client's inbound stream. -/
  | receive (inbound : InboundId)
  | isStopped
  /-- Gives the stop signal. -/
  | stop
  /-- Reads the clock. -/
  | now

/-- What an action answers. -/
@[reducible]
def Action.Answer : Action → Type
  | .create _ => EndpointId
  | .register _ _ => Option EndpointId
  | .removeIfCurrent _ _ => Bool
  | .lookup _ => Option EndpointId
  | .snapshotExcept _ => List Binding
  | .drain => List Binding
  | .deliver _ _ => Except Refusal Unit
  | .close _ => Bool
  | .isClosed _ => Bool
  | .drop _ => Unit
  | .beginWait _ => Unit
  | .endWait _ => Unit
  | .receive _ => Inbound.Next
  | .isStopped => Bool
  | .stop => Unit
  | .now => Timestamp

/-- Performs one action at a given time. -/
def Action.perform (time : Timestamp) (store : Store) : (action : Action) → action.Answer × Store
  | .create capacity => store.newEndpoint capacity
  | .register name endpoint =>
    let (superseded, registry) := store.registry.register name endpoint
    (superseded, { store with registry })
  | .removeIfCurrent name endpoint =>
    let (removed, registry) := store.registry.removeIfCurrent name endpoint
    (removed, { store with registry })
  | .lookup name => (store.registry.lookup name, store)
  | .snapshotExcept name => (store.registry.snapshotExcept name, store)
  | .drain => (store.registry.bindings, { store with registry := .empty })
  | .deliver endpoint delivery =>
    match (store.endpoint endpoint).deliver delivery with
    | .ok after => (.ok (), store.update endpoint fun _ => after)
    | .error refusal => (.error refusal, store)
  | .close endpoint => (!(store.endpoint endpoint).shut, store.update endpoint Endpoint.close)
  | .isClosed endpoint => ((store.endpoint endpoint).isClosed, store)
  | .drop endpoint => ((), store.update endpoint Endpoint.drop)
  | .beginWait endpoint => ((), store.update endpoint Endpoint.beginWait)
  | .endWait endpoint => ((), store.update endpoint Endpoint.endWait)
  | .receive inbound =>
    let (next, after) := (store.inbound inbound).read
    (next, store.updateInbound inbound fun _ => after)
  | .isStopped => (store.stopped, store)
  | .stop => ((), { store with stopped := true })
  | .now => (time, store)

/-- What a task does next: it is done, or it performs an action and goes on with the answer. -/
inductive Program (α : Type) where
  | done (value : α)
  | step (action : Action) (next : action.Answer → Program α)

namespace Program

/-- Goes on with another program. -/
def bind {α β : Type} : Program α → (α → Program β) → Program β
  | .done value, k => k value
  | .step action next, k => .step action fun answer => (next answer).bind k

instance : Monad Program where
  pure := .done
  bind := bind

/-- Performs a program to its end without interruption. -/
def run {α : Type} (time : Timestamp) : Program α → Store → α × Store
  | .done value, store => (value, store)
  | .step action next, store =>
    let (answer, store) := action.perform time store
    (next answer).run time store

@[simp] theorem run_pure {α : Type} (time : Timestamp) (value : α) (store : Store) :
    (pure value : Program α).run time store = (value, store) := rfl

/-- A program that goes on with another one does the first and then the second. -/
@[simp] theorem run_bind {α β : Type} (time : Timestamp) (p : Program α) (k : α → Program β)
    (store : Store) :
    (p >>= k).run time store = (k (p.run time store).1).run time (p.run time store).2 := by
  induction p generalizing store with
  | done => rfl
  | step action next ih => exact ih _ _

/-! ### Programs of one action

Each is called after its action, and answers what the action answers. -/

/-- Performs one action. -/
def act (action : Action) : Program action.Answer := .step action .done

def create (capacity : Nat) : Program EndpointId := act (.create capacity)

def register (name : Name) (endpoint : EndpointId) : Program (Option EndpointId) :=
  act (.register name endpoint)

def removeIfCurrent (name : Name) (endpoint : EndpointId) : Program Bool :=
  act (.removeIfCurrent name endpoint)

def lookup (name : Name) : Program (Option EndpointId) := act (.lookup name)

def snapshotExcept (name : Name) : Program (List Binding) := act (.snapshotExcept name)

def drain : Program (List Binding) := act .drain

def deliver (endpoint : EndpointId) (delivery : Delivery) : Program (Except Refusal Unit) :=
  act (.deliver endpoint delivery)

def close (endpoint : EndpointId) : Program Bool := act (.close endpoint)

def isClosed (endpoint : EndpointId) : Program Bool := act (.isClosed endpoint)

def drop (endpoint : EndpointId) : Program Unit := act (.drop endpoint)

def beginWait (endpoint : EndpointId) : Program Unit := act (.beginWait endpoint)

def endWait (endpoint : EndpointId) : Program Unit := act (.endWait endpoint)

def receive (inbound : InboundId) : Program Inbound.Next := act (.receive inbound)

def isStopped : Program Bool := act .isStopped

def stop : Program Unit := act .stop

def now : Program Timestamp := act .now

end Program

end BroadcastChat
