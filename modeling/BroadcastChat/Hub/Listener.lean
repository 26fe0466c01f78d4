/-
# Listeners

A listener receives under a name and sends nothing. Opening one takes the name
over from whoever holds it; letting go of it frees the name, unless somebody
else has taken it meanwhile. On a hub that has stopped, a listener is closed
from the start and holds no name. The stop signal is looked at before and
after the registration, since the hub may stop in between.

Key definitions: `Listener`, `Program.subscribe`, `Program.openListener`,
`Program.letGo`.
-/
import BroadcastChat.Hub.Broadcast

namespace BroadcastChat

/-- A receive-only subscription; `enrolled` says that it was registered when it was made. -/
structure Listener where
  name : Name
  endpoint : EndpointId
  enrolled : Bool
  deriving DecidableEq

namespace Program

/-- Registers an endpoint under a name and closes the one it supersedes. -/
def takeOver (name : Name) (endpoint : EndpointId) : Program Unit := do
  match ← register name endpoint with
  | none => return ()
  | some previous =>
    let _ ← close previous
    return ()

/-- Makes a listener that holds its name. -/
def subscribe (capacity : Nat) (name : Name) : Program Listener := do
  let endpoint ← create capacity
  takeOver name endpoint
  return ⟨name, endpoint, true⟩

/-- Makes a listener that is closed and holds no name. -/
def closedListener (name : Name) : Program Listener := do
  let endpoint ← create 1
  let _ ← close endpoint
  return ⟨name, endpoint, false⟩

/-- Lets go of a listener: its name if it still holds it, its endpoint, its stream. -/
def letGo (listener : Listener) : Program Unit := do
  if listener.enrolled then
    let _ ← removeIfCurrent listener.name listener.endpoint
  let _ ← close listener.endpoint
  drop listener.endpoint

/-- Opens a listener on the hub. -/
def openListener (capacity : Nat) (name : Name) : Program Listener := do
  if ← isStopped then closedListener name
  else
    let listener ← subscribe capacity name
    if ← isStopped then
      letGo listener
      closedListener name
    else return listener

/-- Closes endpoints. -/
def closeAll : List Binding → Program Unit
  | [] => pure ()
  | (_, endpoint) :: rest => do
    let _ ← close endpoint
    closeAll rest

/-- Stops the hub: gives the signal, empties the registry and closes every endpoint in it. -/
def shutDown : Program Unit := do
  stop
  let bindings ← drain
  closeAll bindings

end Program

end BroadcastChat
