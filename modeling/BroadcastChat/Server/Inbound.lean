/-
# What a chatting client means

A session hears its client through the frames of a web socket: a text frame
that holds a valid chat frame is a message, and every other frame is passed
over, except that a close frame ends what the client has to say. Nothing behind
a close frame counts. A connection that is lost or broken arrives as such.

Key definitions: `Incoming.arrival?`, `Incoming.isClose`, `Incoming.core`,
`Incoming.inbound`.
-/
import BroadcastChat.Frame
import BroadcastChat.Hub.Store
import BroadcastChat.Wire

namespace BroadcastChat

namespace Incoming

/-- The message of a text frame, if it holds a valid one. -/
def message? (text : String) : Option Message :=
  match ChatFrame.reader.read text with
  | .ok chat => chat.toMessage.toOption
  | .error _ => none

/-- What arrives at a session. -/
def arrival? : Incoming → Option Arrival
  | .frame (.text text) => (message? text).map .message
  | .frame _ => none
  | .lost => some .cancelled
  | .violated reason => some (.failed reason)

/-- Whether the client has nothing to say any more. -/
def isClose (incoming : Incoming) : Bool := incoming == .frame .close

/-- Whether a session takes notice. -/
def counts (incoming : Incoming) : Bool := incoming.isClose || incoming.arrival?.isSome

/-- What a session takes notice of: what counts, up to the first close frame. -/
def core : List Incoming → List Incoming
  | [] => []
  | incoming :: rest =>
    if incoming.isClose then [incoming]
    else if incoming.counts then incoming :: core rest
    else core rest

/-- The inbound stream of a connection on which all this has come in, and nothing more will. -/
def inbound (all : List Incoming) : Inbound :=
  ⟨(all.takeWhile fun incoming => !incoming.isClose).filterMap arrival?, false⟩

end Incoming

end BroadcastChat
