/-
# Routes

What the server answers to a request. Two routes tell about the hub, one takes
a single message, and two open web sockets: for chatting, and for listening
under the name in the query. Of several things wrong with a submitted message
the media type comes first, then the size, the JSON, its shape, the limits,
and last that its sender is not connected. Whether a request can open a socket
is decided before its query is looked at.

Key definitions: `Route`, `Route.ofPath?`, `Server.Reply`, `Server.reply`.
-/
import BroadcastChat.Http.MediaType
import BroadcastChat.Http.Request
import BroadcastChat.Hub
import BroadcastChat.Json.Bytes
import BroadcastChat.Text.Form
import BroadcastChat.Wire

namespace BroadcastChat

namespace Server

open Http

/-! ### Paths and methods -/

/-- What can be asked for. -/
inductive Route where
  | health
  | names
  | messages
  | chat
  | listen
  deriving DecidableEq, Repr

namespace Route

/-- The path of a route. -/
def path : Route → String
  | .health => "/api/health"
  | .names => "/api/names"
  | .messages => "/api/messages"
  | .chat => "/ws/chat"
  | .listen => "/ws/listen"

/-- All routes. -/
def all : List Route := [.health, .names, .messages, .chat, .listen]

/-- The route of a path. -/
def ofPath? (path : String) : Option Route := all.find? fun route => route.path == path

/-- The methods that a route takes; a request for the head of something is one for the whole of
it, except that its body is left out. -/
def methods : Route → List String
  | .messages => ["POST"]
  | _ => ["GET", "HEAD"]

end Route

/-! ### Answers -/

/-- What a new socket is for. -/
inductive Purpose where
  | chat
  | listen (name : Name)
  deriving DecidableEq

/-- What a request leads to. -/
inductive Reply where
  | response (response : Response)
  /-- The connection goes on as a web socket. -/
  | socket (purpose : Purpose)
  deriving DecidableEq

/-- A complaint as a response. -/
def complain (status : Nat) (error : String) : Response := .json status (Complaint.mk error).json

/-- The answer to whether the server is well. -/
def health : Response := .json 200 (Json.object [("status", Json.Quoted.encode "ok")])

/-- The names that are connected. -/
def roster (hub : Hub) : Roster := ⟨hub.names.map Name.text⟩

/-- The receipt for a message that was handed out. -/
def receipt (report : Report) : Receipt := ⟨report.delivered.length⟩

/-- The most bytes that a message may come in. -/
def bodyLimit : Nat := 2097152

/-- The chat frame that a request submits, or the response that refuses it. -/
def submitted (request : Request) : Except Response ChatFrame :=
  if ((request.header? "content-type").bind MediaType.ofText?).any MediaType.isJson then
    if request.body.length ≤ bodyLimit then
      match ChatFrame.reader.readBytes request.body with
      | .ok frame => .ok frame
      | .error (.unfit _) => .error (.bare 422)
      | .error _ => .error (.bare 400)
    else .error (.bare 413)
  else .error (.bare 415)

/-- Submits a chat frame. -/
def post (time : Timestamp) (frame : ChatFrame) (hub : Hub) : Response × Hub :=
  match frame.toMessage with
  | .error limit => (complain 400 limit.message, hub)
  | .ok message =>
    match hub.submit time message with
    | (.ok report, hub) => (.json 202 (receipt report).json, hub)
    | (.error refusal, hub) => (complain 404 refusal.message, hub)

/-- The response to a request that does not open a socket, if it has one. -/
def socketRefusal? (request : Request) : Option Response :=
  if request.method ≠ "GET" then some (.bare 405)
  else if ¬request.opensSocket then some (.bare 400)
  else if ¬request.upgradable then some (.bare 426)
  else none

/-- The name that a query gives: exactly one. -/
def listenName (query : String) : Except Response Name :=
  match (Text.Form.pairs query).filter fun pair => pair.1 == "name" with
  | [(_, text)] => (Name.ofString text).mapError fun limit => complain 400 limit.message
  | _ => .error (.bare 400)

/-- What a request for a socket leads to. -/
def handshake (request : Request) (purpose : Except Response Purpose) : Reply :=
  match socketRefusal? request with
  | some response => .response response
  | none =>
    match purpose with
    | .ok purpose => .socket purpose
    | .error response => .response response

/-- What a request for a route leads to, when the route takes its method. -/
def serve (time : Timestamp) (request : Request) (hub : Hub) : Route → Reply × Hub
  | .health => (.response health, hub)
  | .names => (.response (.json 200 (roster hub).json), hub)
  | .messages =>
    match submitted request with
    | .error response => (.response response, hub)
    | .ok frame =>
      let (response, hub) := post time frame hub
      (.response response, hub)
  | .chat => (handshake request (.ok .chat), hub)
  | .listen => (handshake request ((listenName request.target.query).map .listen), hub)

/-- What a request leads to. -/
def reply (time : Timestamp) (request : Request) (hub : Hub) : Reply × Hub :=
  match Route.ofPath? request.target.path with
  | none => (.response (.bare 404), hub)
  | some route =>
    if route.methods.contains request.method then
      match serve time request hub route with
      | (.response response, hub) =>
        (.response (if request.method = "HEAD" then response.withoutContent else response), hub)
      | (.socket purpose, hub) => (.socket purpose, hub)
    else
      (.response { status := 405, allow := some (",".intercalate route.methods) }, hub)

end Server

end BroadcastChat
