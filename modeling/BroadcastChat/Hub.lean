/-
# The hub

A hub is a store with its settings and the sessions that run on it. From
outside one opens sessions and listeners, submits single messages, lets
clients speak and go away, and stops the hub. Each of these takes full effect
at once, except that sessions only notice afterwards: a session's turn handles
one event, and `Hub.settle` gives turns to sessions until none has anything to
do.

A hub may be let go of while sessions still run; they notice it like a stop.

Key definitions: `Hub`, `Hub.turn`, `Hub.settle`, `Hub.openSession`,
`Hub.send`, `Hub.openListener`, `Hub.submit`, `Hub.shutDown`, `Hub.abandon`.
-/
import BroadcastChat.Hub.Session

namespace BroadcastChat

/-- A hub with all that runs on it. -/
structure Hub where
  settings : HubSettings
  store : Store
  sessions : Array Session

/-- Which session. -/
structure SessionId where
  index : Nat
  deriving DecidableEq, Repr

/-- What becomes of something sent to a session. -/
inductive Sent where
  | sent
  /-- The session has ended and reads nothing any more. -/
  | gone
  /-- The stream was ended before. -/
  | ended
  deriving DecidableEq, Repr

namespace Hub

/-- A hub on which nothing has happened. -/
def new (settings : HubSettings) : Hub := ⟨settings, .empty, #[]⟩

/-- Performs a program on the hub's store. -/
def perform {α : Type} (time : Timestamp) (program : Program α) (hub : Hub) : α × Hub :=
  let (answer, store) := program.run time hub.store
  (answer, { hub with store })

/-- The names that are held, in ascending order. -/
def names (hub : Hub) : List Name := hub.store.registry.names

/-- Whether the hub has stopped. -/
def isShutDown (hub : Hub) : Bool := hub.store.stopped

/-! ### Sessions -/

/-- The session of an identifier. -/
def session? (hub : Hub) (id : SessionId) : Option Session := hub.sessions[id.index]?

/-- A running session handles one event; `none` if it has nothing to do. -/
def turn (time : Timestamp) (hub : Hub) (id : SessionId) : Option Hub :=
  match hub.session? id with
  | none => none
  | some session =>
    if session.isOver then none
    else
      match (session.turn hub.settings.policy).run time hub.store with
      | (none, _) => none
      | (some session, store) =>
        some { hub with store, sessions := hub.sessions.setIfInBounds id.index session }

theorem turn_of_none {time : Timestamp} {hub : Hub} {id : SessionId} (h : hub.session? id = none) :
    hub.turn time id = none := by
  rw [turn, h]

theorem turn_of_over {time : Timestamp} {hub : Hub} {id : SessionId} {session : Session}
    (h : hub.session? id = some session) (hover : session.isOver = true) :
    hub.turn time id = none := by
  rw [turn, h]
  exact if_pos hover

/-- A turn of a session that runs is a run of its program. -/
theorem turn_of_running {hub : Hub} {id : SessionId} {session : Session}
    (h : hub.session? id = some session) (hover : session.isOver = false) (time : Timestamp) :
    hub.turn time id = ((session.turn hub.settings.policy).run time hub.store).1.map fun turned =>
      { hub with
        store := ((session.turn hub.settings.policy).run time hub.store).2
        sessions := hub.sessions.setIfInBounds id.index turned } := by
  have hrunning : ¬session.isOver = true := by simp [hover]
  rw [turn, h]
  dsimp only
  rw [if_neg hrunning]
  rcases (session.turn hub.settings.policy).run time hub.store with ⟨_ | turned, store⟩ <;> rfl

/-- The identifiers of all sessions ever opened. -/
def sessionIds (hub : Hub) : List SessionId := (List.range hub.sessions.size).map SessionId.mk

/-- The first session that has something to do takes a turn. -/
def turnOfFirst (time : Timestamp) (hub : Hub) : Option Hub :=
  hub.sessionIds.findSome? (hub.turn time)

/-- How many turns a session can still take: one for each arrival, and one to end. -/
def turnsLeft (hub : Hub) (session : Session) : Nat :=
  if session.isOver then 0 else (hub.store.inbound session.inbound).arrivals.length + 1

/-- How many turns all sessions together can still take. -/
def work (hub : Hub) : Nat := (hub.sessions.toList.map hub.turnsLeft).foldr (· + ·) 0

/-- Gives at most so many turns, one after the other. -/
def settleWithin (time : Timestamp) : Nat → Hub → Hub
  | 0, hub => hub
  | turns + 1, hub =>
    match hub.turnOfFirst time with
    | none => hub
    | some hub => settleWithin time turns hub

/-- Lets all sessions run until none has anything to do. -/
def settle (time : Timestamp) (hub : Hub) : Hub := settleWithin time hub.work hub

/-- Opens a session for a client from which nothing has arrived. -/
def openSession (time : Timestamp) (hub : Hub) : SessionId × Hub :=
  let (inbound, store) := hub.store.newInbound
  let (session, store) := (Session.start hub.settings.capacity inbound).run time store
  (⟨hub.sessions.size⟩, { hub with store, sessions := hub.sessions.push session })

/-- Something arrives from a session's client. -/
def send (hub : Hub) (id : SessionId) (arrival : Arrival) : Sent × Hub :=
  match hub.session? id with
  | none => (.gone, hub)
  | some session =>
    if (hub.store.inbound session.inbound).isOpen then
      if session.isOver then (.gone, hub)
      else
        (.sent, { hub with store := hub.store.updateInbound session.inbound (·.push arrival) })
    else (.ended, hub)

/-- A session's client ends its stream; whether it was open until now. -/
def endInput (hub : Hub) (id : SessionId) : Bool × Hub :=
  match hub.session? id with
  | none => (false, hub)
  | some session =>
    ((hub.store.inbound session.inbound).isOpen,
      { hub with store := hub.store.updateInbound session.inbound Inbound.finish })

/-- How the sessions that have ended did so. -/
def outcome? (hub : Hub) (id : SessionId) : Option Session.Outcome :=
  (hub.session? id).bind (·.state.outcome?)

/-! ### Streams -/

/-- Drops an endpoint's stream; whether there was one. -/
def dropStream (time : Timestamp) (hub : Hub) (id : EndpointId) : Bool × Hub :=
  (!(hub.store.endpoint id).dropped, (hub.perform time (Program.drop id)).2)

/-- Reads everything that is queued at an endpoint, and how its stream stands then. -/
def readAll (hub : Hub) (id : EndpointId) : List Delivery × Reading × Hub :=
  let (deliveries, after) := (hub.store.endpoint id).readAll
  (deliveries, after.standing, { hub with store := hub.store.update id fun _ => after })

/-! ### Everything else -/

/-- Opens a listener. -/
def openListener (time : Timestamp) (hub : Hub) (name : Name) : Listener × Hub :=
  hub.perform time (Program.openListener hub.settings.capacity name)

/-- Lets go of a listener. -/
def letGo (time : Timestamp) (hub : Hub) (listener : Listener) : Hub :=
  (hub.perform time (Program.letGo listener)).2

/-- Submits one message. -/
def submit (time : Timestamp) (hub : Hub) (message : Message) : Except NotSubscribed Report × Hub :=
  hub.perform time (Program.submit message)

/-- Stops the hub. -/
def shutDown (time : Timestamp) (hub : Hub) : Hub := (hub.perform time Program.shutDown).2

/-- Lets go of the hub itself: its sessions notice, its listeners and bindings stay. -/
def abandon (time : Timestamp) (hub : Hub) : Hub := (hub.perform time Program.stop).2

end Hub

end BroadcastChat
