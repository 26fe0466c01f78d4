/-
# The JSON form of the domain

Names, bodies, time stamps, messages and deliveries as JSON values of their
own. Unlike what travels between hub and clients, reading them checks the
limits: a text that is no name or no body is refused with the limit it breaks.

Key definitions: `Name.reader`, `Body.reader`, `Message.reader`,
`Delivery.reader`, and the `json` text of each.
-/
import BroadcastChat.Wire

namespace BroadcastChat

open Json (Reader)
open Json.Quoted (encode)

/-- The JSON form of a name. -/
def Name.json (name : Name) : String := encode name.text

/-- Reads a name within its limits. -/
def Name.reader : Reader Name := Reader.text.refine Name.ofString

/-- The JSON form of a body. -/
def Body.json (body : Body) : String := encode body.text

/-- Reads a body within its limit. -/
def Body.reader : Reader Body := Reader.text.refine Body.ofString

/-- The JSON form of a message. -/
def Message.json (message : Message) : String :=
  Json.object [("from", message.sender.json), ("body", message.body.json)]

/-- Reads a message. -/
def Message.reader : Reader Message :=
  (Reader.record₂ (.required "from" Name.reader) (.required "body" Body.reader)).map
    fun (sender, body) => ⟨sender, body⟩

/-- The JSON form of a delivery. -/
def Delivery.json (delivery : Delivery) : String :=
  Json.object [("message", delivery.message.json), ("received_at", delivery.receivedAt.text)]

/-- Reads a delivery. -/
def Delivery.reader : Reader Delivery :=
  (Reader.record₂ (.required "message" Message.reader)
    (.required "received_at" Timestamp.reader)).map fun (message, stamp) => ⟨message, stamp⟩

end BroadcastChat
