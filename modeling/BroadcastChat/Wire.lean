/-
# What travels between hub and clients

The records that frames and HTTP bodies hold, with their JSON form. They are
raw: a chat frame may carry any two texts, and only turning it into a message
checks them. In a chat frame the text may be left out, which stands for the
empty one.

Key definitions: `ChatFrame`, `ChatFrame.toMessage`, `ChatFrame.ofMessage`,
`DeliveryFrame`, `Roster`, `Receipt`, `Complaint`.
-/
import BroadcastChat.Message
import BroadcastChat.Word
import BroadcastChat.Json.Record
import BroadcastChat.Json.Printer

namespace BroadcastChat

open Json (Reader)
open Json.Quoted (encode)

/-! ### Time stamps -/

namespace Timestamp

/-- A time stamp is an integer of a signed 64-bit word. -/
def reader : Reader Timestamp :=
  (Reader.integer Word.signedMin Word.signedMax).map fun value => ⟨Int64.ofInt value⟩

end Timestamp

/-! ### Chat frames -/

/-- A chat message as it travels. -/
structure ChatFrame where
  sender : String
  text : String
  deriving DecidableEq, Repr

namespace ChatFrame

/-- The chat frame of a message. -/
def ofMessage (message : Message) : ChatFrame := ⟨message.sender.text, message.body.text⟩

/-- The message of a chat frame, the sender checked first. -/
def toMessage (frame : ChatFrame) : Except LimitError Message :=
  Message.ofTexts frame.sender frame.text

/-- The JSON form of a chat frame. -/
def json (frame : ChatFrame) : String :=
  Json.object [("from", encode frame.sender), ("message", encode frame.text)]

/-- Reads a chat frame; a text left out is empty. -/
def reader : Reader ChatFrame :=
  (Reader.record₂ (.required "from" .text) ⟨"message", .text, some ""⟩).map
    fun (sender, text) => ⟨sender, text⟩

/-- A message survives the way into a chat frame and back. -/
theorem toMessage_ofMessage (message : Message) : (ofMessage message).toMessage = .ok message := by
  simp [ofMessage, toMessage, Message.ofTexts, bind, Except.bind, pure, Except.pure]

theorem ofMessage_of_toMessage {frame : ChatFrame} {message : Message}
    (h : frame.toMessage = .ok message) : ofMessage message = frame := by
  obtain ⟨sender, hsender, h⟩ := Json.ok_of_bind h
  obtain ⟨body, hbody, h⟩ := Json.ok_of_bind h
  cases h
  simp [ofMessage, Name.text_of_ofString hsender, Body.text_of_ofString hbody]

end ChatFrame

/-! ### Delivery frames -/

/-- A delivery as it travels. -/
structure DeliveryFrame where
  timestamp : Timestamp
  message : ChatFrame
  deriving DecidableEq

namespace DeliveryFrame

/-- The frame of a delivery. -/
def ofDelivery (delivery : Delivery) : DeliveryFrame :=
  ⟨delivery.receivedAt, .ofMessage delivery.message⟩

/-- The JSON form of a delivery frame. -/
def json (frame : DeliveryFrame) : String :=
  Json.object [("timestamp", frame.timestamp.text), ("message", frame.message.json)]

/-- Reads a delivery frame. -/
def reader : Reader DeliveryFrame :=
  (Reader.record₂ (.required "timestamp" Timestamp.reader)
    (.required "message" ChatFrame.reader)).map fun (timestamp, message) => ⟨timestamp, message⟩

end DeliveryFrame

/-! ### HTTP bodies -/

/-- The names that are connected. -/
structure Roster where
  names : List String
  deriving DecidableEq, Repr

namespace Roster

/-- The JSON form of a roster. -/
def json (roster : Roster) : String :=
  Json.object [("names", Json.array (roster.names.map encode))]

/-- Reads a roster. -/
def reader : Reader Roster :=
  (Reader.record₁ (.required "names" (.list .text))).map fun names => ⟨names⟩

end Roster

/-- How many clients a message was queued for. -/
structure Receipt where
  delivered : Nat
  deriving DecidableEq, Repr

namespace Receipt

/-- The JSON form of a receipt. -/
def json (receipt : Receipt) : String := Json.object [("delivered", toString receipt.delivered)]

/-- Reads a receipt; its count is an unsigned 64-bit word. -/
def reader : Reader Receipt :=
  (Reader.record₁ (.required "delivered" (.integer 0 Word.unsignedMax))).map fun count =>
    ⟨count.toNat⟩

end Receipt

/-- What went wrong with a request. -/
structure Complaint where
  error : String
  deriving DecidableEq, Repr

namespace Complaint

/-- The JSON form of a complaint. -/
def json (complaint : Complaint) : String := Json.object [("error", encode complaint.error)]

/-- Reads a complaint. -/
def reader : Reader Complaint := (Reader.record₁ (.required "error" .text)).map fun error => ⟨error⟩

end Complaint

end BroadcastChat
