/-
# Broadcasts

A broadcast hands one message to everybody but its sender. It is stamped once,
the recipients are listed before anything is queued, and then each is tried in
turn without waiting. A recipient that does not take the message is dropped:
its binding goes, if it is still its own, and its endpoint is closed. That is
nobody else's trouble, so a broadcast cannot fail. A message that does not come
over a session is submitted, which takes a live binding of its sender.

Key definitions: `Report`, `Program.handOut`, `Program.broadcast`,
`NotSubscribed`, `Program.submit`.
-/
import BroadcastChat.Hub.Program

namespace BroadcastChat

/-- Who took a message and who was dropped over it. -/
structure Report where
  delivered : List Name
  pruned : List Name
  deriving DecidableEq

namespace Report

/-- Nobody so far. -/
def empty : Report := ⟨[], []⟩

/-- One more took the message. -/
def took (report : Report) (name : Name) : Report :=
  { report with delivered := report.delivered ++ [name] }

/-- One more was dropped. -/
def lost (report : Report) (name : Name) : Report :=
  { report with pruned := report.pruned ++ [name] }

end Report

namespace Program

/-- Tries the recipients in turn; `report` is about those tried before. -/
def handOut (delivery : Delivery) (report : Report) : List Binding → Program Report
  | [] => pure report
  | (name, endpoint) :: rest => do
    match ← deliver endpoint delivery with
    | .ok () => handOut delivery (report.took name) rest
    | .error _ =>
      let _ ← removeIfCurrent name endpoint
      let _ ← close endpoint
      handOut delivery (report.lost name) rest

/-- Hands a message to everybody but its sender. -/
def broadcast (message : Message) : Program Report := do
  let time ← now
  let recipients ← snapshotExcept message.sender
  handOut ⟨message, time⟩ .empty recipients

end Program

/-! ### One message without a session -/

/-- The sender has no live endpoint under its name. -/
structure NotSubscribed where
  sender : String
  deriving DecidableEq, Repr

/-- The wording of a refused submit. -/
def NotSubscribed.message (refusal : NotSubscribed) : String :=
  s!"client '{refusal.sender}' is not subscribed"

namespace Program

/-- Broadcasts a message for a sender that is connected. A binding to a closed endpoint counts as
none, and goes. -/
def submit (message : Message) : Program (Except NotSubscribed Report) := do
  match ← lookup message.sender with
  | none => return .error ⟨message.sender.text⟩
  | some endpoint =>
    if ← isClosed endpoint then
      let _ ← removeIfCurrent message.sender endpoint
      return .error ⟨message.sender.text⟩
    else
      let report ← broadcast message
      return .ok report

end Program

end BroadcastChat
