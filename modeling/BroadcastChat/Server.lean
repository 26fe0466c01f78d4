/-
# The server

A hub with the web sockets that are open on it. A socket for chatting belongs
to a session, one for listening to a listener; what a client sends reaches the
hub through it, and what the hub delivers goes out through it as text frames.
When its stream of deliveries ends, the server closes the socket. A listening
client has nothing to say: its frames are ignored, and when it closes, goes
away or breaks the connection, its listener is let go of.

As on the hub itself, everything takes effect at once except that sessions and
sockets only notice afterwards, in `Server.settle`.

Key definitions: `Socket`, `Server`, `Server.request`, `Server.receive`,
`Server.settle`, `Server.take`.
-/
import BroadcastChat.Server.Inbound
import BroadcastChat.Server.Routes

namespace BroadcastChat

/-- What a socket serves. -/
inductive Socket.Role where
  | chat (session : SessionId)
  | listen (listener : Listener)
  deriving DecidableEq

/-- How a socket came to its end. -/
inductive Socket.Finish where
  /-- The server sent a close frame. -/
  | closed
  /-- The server dropped the connection. -/
  | lost
  | closedByClient
  | lostByClient
  deriving DecidableEq, Repr

/-- A web socket: `sent` are the text frames that have reached the client and that it has not
taken yet. -/
structure Socket where
  role : Socket.Role
  sent : List String
  finish : Option Socket.Finish
  deriving DecidableEq

/-- Which socket. -/
structure SocketId where
  index : Nat
  deriving DecidableEq, Repr

/-- A hub with its sockets. -/
structure Server where
  hub : Hub
  sockets : Array Socket

namespace Server

/-- A server on which nothing has happened. -/
def new (settings : HubSettings) : Server := ⟨.new settings, #[]⟩

/-- The socket of an identifier. -/
def socket? (server : Server) (id : SocketId) : Option Socket := server.sockets[id.index]?

/-- Puts a socket in its place. -/
def put (server : Server) (id : SocketId) (socket : Socket) : Server :=
  { server with sockets := server.sockets.setIfInBounds id.index socket }

/-! ### Requests -/

/-- Opens a socket. -/
def openSocket (time : Timestamp) (server : Server) (purpose : Purpose) : SocketId × Server :=
  let (role, hub) : Socket.Role × Hub :=
    match purpose with
    | .chat =>
      let (session, hub) := server.hub.openSession time
      (.chat session, hub)
    | .listen name =>
      let (listener, hub) := server.hub.openListener time name
      (.listen listener, hub)
  (⟨server.sockets.size⟩, ⟨hub, server.sockets.push ⟨role, [], none⟩⟩)

/-- What comes back for a request. -/
inductive Outcome where
  | response (response : Http.Response)
  | socket (id : SocketId)
  deriving DecidableEq

/-- Handles a request. -/
def request (time : Timestamp) (server : Server) (request : Http.Request) : Outcome × Server :=
  match reply time request server.hub with
  | (.response response, hub) => (.response response, { server with hub })
  | (.socket purpose, hub) =>
    let (id, server) := { server with hub : Server }.openSocket time purpose
    (.socket id, server)

/-! ### What comes in -/

/-- What comes in from a chatting client, and how it ends the socket. -/
def hear (hub : Hub) (session : SessionId) (incoming : Incoming) : Option Socket.Finish × Hub :=
  if incoming.isClose then (some .closedByClient, (hub.endInput session).2)
  else
    (if incoming = .lost then some .lostByClient else none,
      match incoming.arrival? with
      | none => hub
      | some arrival => (hub.send session arrival).2)

/-- What comes in from a listening client, and how it ends the socket. -/
def ignore (time : Timestamp) (hub : Hub) (listener : Listener) :
    Incoming → Option Socket.Finish × Hub
  | .frame .close => (some .closedByClient, hub.letGo time listener)
  | .frame _ => (none, hub)
  | .lost => (some .lostByClient, hub.letGo time listener)
  | .violated _ => (some .lost, hub.letGo time listener)

/-- Something comes in over a socket; `none` if the socket is over. -/
def receive (time : Timestamp) (server : Server) (id : SocketId) (incoming : Incoming) :
    Option Server := do
  let socket ← server.socket? id
  guard socket.finish.isNone
  let (finish, hub) :=
    match socket.role with
    | .chat session => hear server.hub session incoming
    | .listen listener => ignore time server.hub listener incoming
  return { server with hub }.put id { socket with finish }

/-! ### What goes out -/

/-- The endpoint whose deliveries go out through a socket. -/
def endpoint? (hub : Hub) (socket : Socket) : Option EndpointId :=
  match socket.role with
  | .chat session => (hub.session? session).map (·.endpoint)
  | .listen listener => some listener.endpoint

/-- The text of a delivery's frame. -/
def frameText (delivery : Delivery) : String := (DeliveryFrame.ofDelivery delivery).json

/-- Sends what is queued for a socket, and closes it if nothing more will come. -/
def flush (hub : Hub) (socket : Socket) : Socket × Hub :=
  match socket.finish, endpoint? hub socket with
  | none, some endpoint =>
    let (deliveries, standing, hub) := hub.readAll endpoint
    ({ socket with
        sent := socket.sent ++ deliveries.map frameText
        finish := if standing = .pending then none else some .closed }, hub)
  | _, _ => (socket, hub)

/-- Flushes sockets one after the other. -/
def flushAll (hub : Hub) : List Socket → List Socket × Hub
  | [] => ([], hub)
  | socket :: rest =>
    let (socket, hub) := flush hub socket
    let (rest, hub) := flushAll hub rest
    (socket :: rest, hub)

/-- Lets sessions and sockets run until none has anything to do. -/
def settle (time : Timestamp) (server : Server) : Server :=
  let (sockets, hub) := flushAll (server.hub.settle time) server.sockets.toList
  ⟨hub, sockets.toArray⟩

/-- The client takes the frames that have reached it. -/
def take (server : Server) (id : SocketId) : List String × Server :=
  match server.socket? id with
  | none => ([], server)
  | some socket => (socket.sent, server.put id { socket with sent := [] })

/-! ### The hub underneath -/

/-- Submits one message at the hub itself. -/
def submitMessage (time : Timestamp) (server : Server) (message : Message) :
    Except NotSubscribed Report × Server :=
  let (result, hub) := server.hub.submit time message
  (result, { server with hub })

/-- Stops the hub. -/
def shutDown (time : Timestamp) (server : Server) : Server :=
  { server with hub := server.hub.shutDown time }

end Server

end BroadcastChat
