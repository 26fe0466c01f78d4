/-
# Sessions

A session speaks for one client that sends and receives. It waits for the
client's first message, which names it; takes that name over; and from then on
broadcasts every message under that name, whatever sender the message claims.
It ends when the client ends the stream, goes away or breaks the connection,
when its endpoint is closed by somebody else, or when the hub stops; then it
frees its name, unless somebody else has it, and closes its endpoint. When
several of these are true at once, the stop signal comes first, then the
closed endpoint, then what has arrived.

A session that runs waits for the closure of its own endpoint, so its stream
ends only after the session has.

Key definitions: `Session.Outcome`, `Session.State`, `Session.Ending`,
`Session.Event`, `Session.nextEvent`, `Session.onEvent`, `Session.wrapUp`, `Session.turn`.
-/
import BroadcastChat.Hub.Listener
import BroadcastChat.Settings

namespace BroadcastChat

namespace Session

/-- Why a session ended. -/
inductive Outcome where
  /-- The stream ended before the first message. -/
  | staleHandshake
  | disconnected
  | cancelled
  /-- Somebody else closed its endpoint. -/
  | evicted
  | transportError (reason : String)
  deriving DecidableEq, Repr

/-- The wording of an outcome. -/
def Outcome.text : Outcome → String
  | .staleHandshake => "closed before hello"
  | .disconnected => "disconnected"
  | .cancelled => "cancelled"
  | .evicted => "evicted"
  | .transportError reason => s!"transport error: {reason}"

/-- Where a session stands. -/
inductive State where
  | awaitingHello
  | active (name : Name)
  | closing (name : Name) (outcome : Outcome)
  | closed (outcome : Outcome)
  deriving DecidableEq

namespace State

/-- How a state is shown. -/
def text : State → String
  | .awaitingHello => "awaiting-hello"
  | .active name => s!"active({name.text})"
  | .closing name _ => s!"closing({name.text})"
  | .closed _ => "closed"

/-- The outcome of a session that has ended. -/
def outcome? : State → Option Outcome
  | .closed outcome => some outcome
  | _ => none

end State

/-- What makes a session end. -/
inductive Ending where
  /-- The client ended its stream. -/
  | ended
  /-- The client went away, or the hub stopped. -/
  | cancelled
  /-- Somebody else closed the session's endpoint. -/
  | evicted
  | failed (reason : String)
  deriving DecidableEq, Repr

/-- The outcome of an ending, for a session whose client has been named or not. -/
def Ending.outcome (named : Bool) : Ending → Outcome
  | .ended => if named then .disconnected else .staleHandshake
  | .cancelled => .cancelled
  | .evicted => .evicted
  | .failed reason => .transportError reason

/-- What a session has to handle. -/
inductive Event where
  | message (message : Message)
  | ending (ending : Ending)
  deriving DecidableEq

/-- The event of something that arrived. -/
def Event.ofArrival : Arrival → Event
  | .message m => .message m
  | .cancelled => .ending .cancelled
  | .failed reason => .ending (.failed reason)

end Session

/-- A session: its own endpoint, its client's stream, and where it stands. -/
structure Session where
  endpoint : EndpointId
  inbound : InboundId
  state : Session.State
  deriving DecidableEq

namespace Session

open Program

/-- Looks for something to handle, the most urgent first. -/
def nextEvent (session : Session) : Program (Option Event) := do
  if ← isStopped then return some (.ending .cancelled)
  else if ← isClosed session.endpoint then return some (.ending .evicted)
  else
    match ← receive session.inbound with
    | .arrival arrival => return some (.ofArrival arrival)
    | .ended => return some (.ending .ended)
    | .waiting => return none

/-- The client's first message names the session. -/
def greet (policy : GreetingPolicy) (session : Session) (hello : Message) : Program State := do
  takeOver hello.sender session.endpoint
  match policy with
  | .broadcast =>
    let _ ← broadcast hello
    return .active hello.sender
  | .registerOnly => return .active hello.sender

/-- One transition of a session that waits for events. -/
def onEvent (policy : GreetingPolicy) (session : Session) (event : Event) : Program State :=
  match session.state, event with
  | .awaitingHello, .message hello => session.greet policy hello
  | .awaitingHello, .ending ending => pure (.closed (ending.outcome false))
  | .active name, .message m => do
    let _ ← broadcast (m.sentAs name)
    return .active name
  | .active name, .ending ending => pure (.closing name (ending.outcome true))
  | state, _ => pure state

/-- Frees the name of a session that closes. -/
def release (session : Session) : State → Program State
  | .closing name outcome => do
    let _ ← removeIfCurrent name session.endpoint
    return .closed outcome
  | state => pure state

/-- Closes the endpoint of a session that has ended. -/
def finish (session : Session) : State → Program State
  | .closed outcome => do
    let _ ← close session.endpoint
    endWait session.endpoint
    return .closed outcome
  | state => pure state

/-- The transitions that follow an event without waiting for another one. -/
def wrapUp (session : Session) (state : State) : Program State := do
  let state ← session.release state
  session.finish state

/-- Handles the next event, if there is any, as far as to the wait for the one after it. -/
def turn (policy : GreetingPolicy) (session : Session) : Program (Option Session) := do
  match ← session.nextEvent with
  | none => return none
  | some event =>
    let state ← session.onEvent policy event
    let state ← session.wrapUp state
    return some { session with state }

/-- Makes a session, which starts by waiting for its client and for its endpoint's closure. -/
def start (capacity : Nat) (inbound : InboundId) : Program Session := do
  let endpoint ← create capacity
  beginWait endpoint
  return ⟨endpoint, inbound, .awaitingHello⟩

/-- Whether a session has ended. -/
def isOver (session : Session) : Bool := session.state.outcome?.isSome

end Session

end BroadcastChat
