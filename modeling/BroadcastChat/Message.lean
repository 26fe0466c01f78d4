/-
# Messages and deliveries

A message is a body with the name of its sender. When the hub hands a message
out it stamps it once: every recipient gets the same delivery.

Key definitions: `Message`, `Message.ofTexts`, `Message.sentAs`, `Delivery`.
-/
import BroadcastChat.Name
import BroadcastChat.Clock

namespace BroadcastChat

/-- What a participant says. -/
structure Message where
  sender : Name
  body : Body
  deriving DecidableEq

namespace Message

/-- The message of two texts; the sender is checked before the body. -/
def ofTexts (sender body : String) : Except LimitError Message := do
  let sender ← Name.ofString sender
  let body ← Body.ofString body
  return ⟨sender, body⟩

/-- The same body under another sender's name. -/
def sentAs (message : Message) (sender : Name) : Message :=
  { message with sender }

@[simp] theorem sentAs_self (message : Message) : message.sentAs message.sender = message := rfl

end Message

/-- A message with the time at which the hub received it for handing out. -/
structure Delivery where
  message : Message
  receivedAt : Timestamp
  deriving DecidableEq

namespace Delivery

/-- Whose message is delivered. -/
def sender (delivery : Delivery) : Name := delivery.message.sender

end Delivery

end BroadcastChat
