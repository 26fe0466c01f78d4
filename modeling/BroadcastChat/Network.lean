/-
# A server and its clients

A server with the clients that are connected to it over a network on which
nothing is lost and everything takes effect at once: what a client sends is
handled, and what the server sends has come in, before anything else happens.
A network may also be one on which no connection comes about, and when the
server is told to stop it ends what is connected and takes nothing new.

Key definitions: `Network`, `Network.connect`, `Network.say`, `Network.names`,
`Network.submit`, `Network.takeDeliveries`, `Network.stop`.
-/
import BroadcastChat.Client.Api
import BroadcastChat.Client.Console
import BroadcastChat.Client.Deliveries
import BroadcastChat.Server

namespace BroadcastChat

open Client (Error)

/-- The client's end of a connection. `speaker` is the name a chatting client speaks under, and
`unread` are the deliveries that have come in and were not looked at yet. -/
structure Peer where
  socket : SocketId
  speaker : Option Name
  isOpen : Bool
  unread : List DeliveryFrame
  deriving DecidableEq

/-- Which client. -/
structure PeerId where
  index : Nat
  deriving DecidableEq, Repr

/-- A server with its clients; `reachable` says whether connections come about. -/
structure Network where
  reachable : Bool
  address : Client.Address
  server : Server
  peers : Array Peer
  stopped : Bool

namespace Network

/-- A network on which nothing has happened. -/
def new (reachable : Bool) (address : Client.Address) (settings : HubSettings) : Network :=
  ⟨reachable, address, .new settings, #[], false⟩

/-- Whether the server answers at an address. -/
def answersAt (network : Network) (address : Client.Address) : Bool :=
  network.reachable && !network.stopped && network.address == address

/-- The client of an identifier. -/
def peer? (network : Network) (id : PeerId) : Option Peer := network.peers[id.index]?

/-- Puts a client in its place. -/
def put (network : Network) (id : PeerId) (peer : Peer) : Network :=
  { network with peers := network.peers.setIfInBounds id.index peer }

/-- Lets everything happen that has to. -/
def settle (time : Timestamp) (network : Network) : Network :=
  { network with server := network.server.settle time }

/-! ### Web sockets -/

/-- The wording of a connection that does not come about. -/
def refusedReason : String := "IO error: Connection refused (os error 111)"

/-- What is asked for at the host of a URL. -/
def targetOf (url : Url) : Http.Target :=
  ⟨String.ofList url.path, String.ofList (url.query.getD [])⟩

/-- Where a client connects to, and what it asks for there. -/
def destination (address : Client.Address) (speaks : Bool) (name : Name) :
    Except Error (String × Http.Target) :=
  if speaks then
    .ok (address.socketUrl Server.Route.chat.path, ⟨Server.Route.chat.path, ""⟩)
  else (address.listen name.text).map fun url => (url.text, targetOf url)

/-- Sends a frame for a client. -/
def transmit (time : Timestamp) (network : Network) (peer : Peer) (incoming : Incoming) : Network :=
  match network.server.receive time peer.socket incoming with
  | some server => { network with server }.settle time
  | none => network

/-- A client opens a socket at an address for a valid name; a chatting one greets the hub. -/
def join (time : Timestamp) (network : Network) (address : Client.Address) (speaks : Bool)
    (name : Name) : Except Error PeerId × Network :=
  match destination address speaks name with
  | .error error => (.error error, network)
  | .ok (url, target) =>
    if network.answersAt address then
      match network.server.request time (Client.socketRequest target) with
      | (.response response, server) =>
        (.error (.connect url s!"HTTP error: {response.status}"), { network with server })
      | (.socket socket, server) =>
        let peer : Peer := ⟨socket, if speaks then some name else none, true, []⟩
        let id : PeerId := ⟨network.peers.size⟩
        let network := { network with server, peers := network.peers.push peer }.settle time
        (.ok id,
          if speaks then
            network.transmit time peer (.ofFrame (.text (Client.Console.greeting name).json))
          else network)
    else (.error (.connect url refusedReason), network)

/-- A client opens a socket at the server; its name is checked first. -/
def connect (time : Timestamp) (network : Network) (speaks : Bool) (name : String) :
    Except Error PeerId × Network :=
  match Name.ofString name with
  | .error limit => (.error (.invalidName limit), network)
  | .ok name => network.join time network.address speaks name

/-- A chatting client says something; whether it still could. -/
def say (time : Timestamp) (network : Network) (id : PeerId) (text : String) : Bool × Network :=
  match network.peer? id with
  | none => (false, network)
  | some peer =>
    match peer.isOpen, peer.speaker with
    | true, some name =>
      let frame : ChatFrame := ⟨name.text, text⟩
      (true, network.transmit time peer (.ofFrame (.text frame.json)))
    | isOpen, _ => (isOpen, network)

/-- A client ends its side of a connection, with a close frame or without; whether it still
could. -/
def leave (time : Timestamp) (network : Network) (id : PeerId) (incoming : Incoming) :
    Bool × Network :=
  match network.peer? id with
  | none => (false, network)
  | some peer =>
    if peer.isOpen then
      (true, (network.transmit time peer incoming).put id { peer with isOpen := false })
    else (false, network)

/-- What has come in over a socket since it was last looked at. -/
def arrived (texts : List String) (finish : Option Socket.Finish) : List Incoming :=
  texts.map (fun text => .frame (.text text)) ++
    match finish with
    | some .closed => [.frame .close]
    | some .lost => [.lost]
    | _ => []

/-- A client looks at what has come in. -/
def look (network : Network) (id : PeerId) : Network :=
  match network.peer? id with
  | none => network
  | some peer =>
    let finish := (network.server.socket? peer.socket).bind (·.finish)
    let (texts, server) := network.server.take peer.socket
    let fresh := (Client.deliveries (arrived texts finish)).filterMap Except.toOption
    { network with server }.put id { peer with unread := peer.unread ++ fresh }

/-- A client takes the deliveries that have come in, at most so many. -/
def takeDeliveries (network : Network) (id : PeerId) (count : Nat) :
    List DeliveryFrame × Network :=
  let network := network.look id
  match network.peer? id with
  | none => ([], network)
  | some peer =>
    (peer.unread.take count, network.put id { peer with unread := peer.unread.drop count })

/-- Whether the server has ended a client's deliveries. -/
def hasEnded (network : Network) (id : PeerId) : Bool :=
  ((network.peer? id).bind fun peer => (network.server.socket? peer.socket).bind (·.finish)) =
    some .closed

/-- The failure that a client's deliveries have ended with, if they have. -/
def failure? (network : Network) (id : PeerId) : Option Error :=
  ((network.peer? id).bind fun peer => (network.server.socket? peer.socket).bind (·.finish)).bind
    fun finish => (Client.deliveries (arrived [] (some finish))).findSome? fun
      | .ok _ => none
      | .error error => some error

/-- A client learns that its deliveries have ended, if they have. -/
def awaitEnd (network : Network) (id : PeerId) : Bool × Network :=
  match network.peer? id with
  | none => (false, network)
  | some peer =>
    if network.hasEnded id then (true, network.put id { peer with isOpen := false })
    else (false, network)

/-! ### HTTP -/

/-- The wording of a request that cannot be sent: there is no such URL, or nobody answers. -/
def notSentReason (address : Client.Address) (path : String) : String :=
  match address.url path with
  | .error _ => "builder error"
  | .ok _ => s!"error sending request for url ({address.httpUrl path})"

/-- A request to an address and its response: the status and what follows the head. -/
def exchange (time : Timestamp) (network : Network) (address : Client.Address)
    (request : Http.Request) : Except Error (Nat × List UInt8) × Network :=
  let notSent : Error := .http (notSentReason address request.target.path)
  if network.answersAt address then
    match network.server.request time request with
    | (.response response, server) =>
      (.ok (response.status, Text.Utf8.encode (response.body.getD "")),
        { network with server }.settle time)
    | (.socket _, server) => (.error notSent, { network with server })
  else (.error notSent, network)

/-- A client asks at an address for the names that are connected. -/
def names (time : Timestamp) (network : Network) (address : Client.Address) :
    Except Error (List String) × Network :=
  let (response, network) := network.exchange time address Client.namesRequest
  (response.bind fun (status, body) => Client.namesOf status body, network)

/-- A client submits a message at an address. -/
def submit (time : Timestamp) (network : Network) (address : Client.Address) (frame : ChatFrame) :
    Except Error Nat × Network :=
  let (response, network) := network.exchange time address (Client.submitRequest frame)
  (response.bind fun (status, body) => Client.receiptOf frame.sender status body, network)

/-! ### Stopping -/

/-- Tells the server to stop; whether it is told so for the first time. -/
def stop (time : Timestamp) (network : Network) : Bool × Network :=
  (!network.stopped,
    { network with server := (network.server.shutDown time).settle time, stopped := true })

end Network

end BroadcastChat
