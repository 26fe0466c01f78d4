/-
# Runs of a server

What can happen to a server from outside is an `Incident`: a request, something
that comes in over a socket, a turn of a session, one write to a socket,
somebody in the same process who submits, the stop. What has reached a client
stays in `Socket.sent`, so that it can be read there at the end.

Underneath every incident is at most one move of the hub (`Server.move?`), and
the projection commutes with the step (`Server.Staged.step`): so the hub of a
server that runs is a hub that runs (`Server.staged_run`), and everything that
is known about runs of a hub is known about servers.

Key definitions: `Server.Incident`, `Server.write`, `Server.step`, `Server.run`,
`Server.asked?`, `Server.move?`, `Server.moves`, `Server.Staged`.
Key theorems: `Server.request_of_chat`, `Server.request_of_listen`,
`Server.request_cases`, `Server.Staged.step`, `Server.staged_run`.
-/
import Mathlib.Data.List.Perm.Subperm
import BroadcastChat.Client.Api
import BroadcastChat.Server
import BroadcastChat.Proofs.Inflow

namespace BroadcastChat

namespace Server

/-! ### Incidents -/

/-- What can happen to a server. -/
inductive Incident where
  | request (request : Http.Request)
  | receive (id : SocketId) (incoming : Incoming)
  | turn (id : SessionId)
  /-- The server writes once to a socket. -/
  | write (id : SocketId)
  /-- Somebody in the server's own process submits. -/
  | submit (message : Message)
  | shutDown

/-- Sends the first delivery that is queued for a socket, or closes it if nothing more will come. -/
def writeTo (hub : Hub) (socket : Socket) : Socket × Hub :=
  match socket.finish, endpoint? hub socket with
  | none, some endpoint =>
    match hub.read endpoint with
    | (.delivery delivery, hub) =>
      ({ socket with sent := socket.sent ++ [frameText delivery] }, hub)
    | (.pending, hub) => (socket, hub)
    | (_, hub) => ({ socket with finish := some .closed }, hub)
  | _, _ => (socket, hub)

/-- Writes once to the socket of an identifier. -/
def write (server : Server) (id : SocketId) : Server :=
  match server.socket? id with
  | none => server
  | some socket =>
    let (socket, hub) := writeTo server.hub socket
    { server with hub }.put id socket

/-- What comes of an incident. One that is not possible changes nothing. -/
def step (time : Timestamp) (server : Server) : Incident → Server
  | .request request => (server.request time request).2
  | .receive id incoming => (server.receive time id incoming).getD server
  | .turn id => { server with hub := (server.hub.turn time id).getD server.hub }
  | .write id => server.write id
  | .submit message => (server.submitMessage time message).2
  | .shutDown => server.shutDown time

/-- What there is after all incidents, each at its time. -/
def run (server : Server) (incidents : List (Timestamp × Incident)) : Server :=
  incidents.foldl (fun server incident => server.step incident.1 incident.2) server

theorem run_append (server : Server) (incidents more : List (Timestamp × Incident)) :
    server.run (incidents ++ more) = (server.run incidents).run more :=
  List.foldl_append

theorem run_singleton (server : Server) (time : Timestamp) (incident : Incident) :
    server.run [(time, incident)] = server.step time incident := rfl

theorem run_concat {server later : Server} {incidents : List (Timestamp × Incident)}
    (h : server.run incidents = later) (time : Timestamp) (incident : Incident) :
    server.run (incidents ++ [(time, incident)]) = later.step time incident := by
  rw [run_append, h, run_singleton]

/-! ### What happens to the hub -/

/-- What a request asks of the hub on a route that takes it; a request that only looks, or is
refused, asks nothing. -/
def routed? (request : Http.Request) : Route → Option Move
  | .health | .names => none
  | .messages =>
    match submitted request with
    | .ok frame => frame.toMessage.toOption.map .submit
    | .error _ => none
  | .chat => if (socketRefusal? request).isNone then some .openSession else none
  | .listen =>
    if (socketRefusal? request).isNone then
      (listenName request.target.query).toOption.map .openListener
    else none

/-- What a request asks of the hub. -/
def asked? (request : Http.Request) : Option Move :=
  match Route.ofPath? request.target.path with
  | none => none
  | some route =>
    if route.methods.contains request.method then routed? request route else none

/-- What something that comes in over a socket does to the hub. -/
def heard? (socket : Socket) (incoming : Incoming) : Option Move :=
  match socket.role with
  | .chat session =>
    if incoming.isClose then some (.endInput session)
    else incoming.arrival?.map (.arrive session)
  | .listen listener =>
    match incoming with
    | .frame .close | .lost | .violated _ => some (.letGo listener)
    | .frame _ => none

/-- What an incident does to the hub. -/
def move? (server : Server) : Incident → Option Move
  | .request request => asked? request
  | .receive id incoming =>
    match server.socket? id with
    | none => none
    | some socket => if socket.finish.isNone then heard? socket incoming else none
  | .turn id => some (.turn id)
  | .write id =>
    match server.socket? id with
    | none => none
    | some socket => if socket.finish.isNone then (endpoint? server.hub socket).map .read else none
  | .submit message => some (.submit message)
  | .shutDown => some .shutDown

/-- What incidents do to the hub, one after the other. -/
def moves (server : Server) : List (Timestamp × Incident) → List (Timestamp × Move)
  | [] => []
  | (time, incident) :: rest =>
    (server.move? incident).toList.map (time, ·) ++ (server.step time incident).moves rest

end Server

/-! ### Requests -/

theorem Text.sameWord_eq (a b : String) :
    Text.sameWord a b = (a.toList.map Char.toLower == b.toList.map Char.toLower) := by
  rw [Bool.eq_iff_iff, Text.sameWord, beq_iff_eq, beq_iff_eq, Text.lower, Text.lower,
    String.ext_iff, String.toList_map, String.toList_map]

namespace Server

variable {time : Timestamp} {server : Server} {request : Http.Request}

theorem handshake_ok {purpose : Purpose} (h : socketRefusal? request = none) :
    handshake request (.ok purpose) = .socket purpose := by
  simp only [handshake, h]

theorem handshake_refused {response : Http.Response} (h : socketRefusal? request = some response)
    (purpose : Except Http.Response Purpose) :
    handshake request purpose = .response response := by
  simp only [handshake, h]

theorem handshake_error (request : Http.Request) (response : Http.Response) :
    ∃ refusal, handshake request (.error response) = .response refusal := by
  unfold handshake
  cases socketRefusal? request with
  | none => exact ⟨response, rfl⟩
  | some refusal => exact ⟨refusal, rfl⟩

theorem socketRefusal?_socketRequest (target : Http.Target) :
    socketRefusal? (Client.socketRequest target) = none := by
  have hopens : (Client.socketRequest target).opensSocket = true := by
    simp only [Http.Request.opensSocket, Http.Request.header?, Client.socketRequest,
      funext₂ Text.sameWord_eq, Text.lower, String.toList_map]
    decide
  have hget : (Client.socketRequest target).method = "GET" := rfl
  have hupgradable : (Client.socketRequest target).upgradable = true := rfl
  simp only [socketRefusal?, hget, hopens, hupgradable, not_true_eq_false, ne_eq, if_false]

/-- Who is not refused a socket has asked with the right method. -/
theorem method_of_socketRefusal? (h : socketRefusal? request = none) : request.method = "GET" := by
  unfold socketRefusal? at h
  split at h
  · cases h
  · rename_i hget
    exact not_not.1 hget

section

variable {route : Route} (hroute : Route.ofPath? request.target.path = some route)
  (htaken : route.methods.contains request.method = true)
include hroute htaken

/-- A request on a route that takes it asks of the hub what the route says. -/
theorem asked?_of_route : asked? request = routed? request route := by
  simp only [asked?, hroute, htaken, if_true]

/-- A route that answers leaves the sockets alone. -/
theorem request_of_response {response : Http.Response} {hub : Hub}
    (h : serve time request server.hub route = (.response response, hub)) :
    (server.request time request).2 = { server with hub } := by
  simp only [Server.request, reply, hroute, htaken, if_true, h]

theorem request_of_socket {purpose : Purpose}
    (h : serve time request server.hub route = (.socket purpose, server.hub)) :
    server.request time request =
      (.socket ⟨server.sockets.size⟩, (server.openSocket time purpose).2) := by
  simp only [Server.request, reply, hroute, htaken, if_true, h]
  rfl

end

theorem request_of_chat (time : Timestamp) (server : Server)
    (hpath : request.target.path = Route.chat.path) (hrefusal : socketRefusal? request = none) :
    asked? request = some .openSession ∧ server.request time request =
      (.socket ⟨server.sockets.size⟩, (server.openSocket time .chat).2) := by
  have hroute : Route.ofPath? request.target.path = some .chat := by
    rw [hpath]
    decide
  have htaken : Route.chat.methods.contains request.method = true := by
    rw [method_of_socketRefusal? hrefusal]
    decide
  refine ⟨?_, request_of_socket hroute htaken ?_⟩
  · rw [asked?_of_route hroute htaken, routed?, hrefusal]
    rfl
  · rw [serve, handshake_ok hrefusal]

theorem request_of_listen (time : Timestamp) (server : Server) {name : Name}
    (hpath : request.target.path = Route.listen.path) (hrefusal : socketRefusal? request = none)
    (hname : listenName request.target.query = .ok name) :
    asked? request = some (.openListener name) ∧ server.request time request =
      (.socket ⟨server.sockets.size⟩, (server.openSocket time (.listen name)).2) := by
  have hroute : Route.ofPath? request.target.path = some .listen := by
    rw [hpath]
    decide
  have htaken : Route.listen.methods.contains request.method = true := by
    rw [method_of_socketRefusal? hrefusal]
    decide
  refine ⟨?_, request_of_socket hroute htaken ?_⟩
  · rw [asked?_of_route hroute htaken, routed?, hrefusal, hname]
    rfl
  · rw [serve, hname]
    exact congrArg (·, server.hub) (handshake_ok hrefusal)

theorem request_chat (time : Timestamp) (server : Server) :
    server.request time (Client.socketRequest ⟨Route.chat.path, ""⟩) =
      (.socket ⟨server.sockets.size⟩, (server.openSocket time .chat).2) :=
  (request_of_chat time server rfl (socketRefusal?_socketRequest _)).2

/-- What a posted frame comes to. -/
theorem post_cases (time : Timestamp) (frame : ChatFrame) (hub : Hub) :
    (∃ limit response, frame.toMessage = .error limit ∧ post time frame hub = (response, hub)) ∨
    ∃ message response, frame.toMessage = .ok message ∧
      post time frame hub = (response, (hub.submit time message).2) := by
  unfold post
  cases hmessage : frame.toMessage with
  | error limit => exact .inl ⟨limit, _, rfl, rfl⟩
  | ok message =>
    dsimp only
    cases hresult : hub.submit time message with
    | mk result after =>
      cases result with
      | ok report => exact .inr ⟨message, _, rfl, by rw [hresult]⟩
      | error refusal => exact .inr ⟨message, _, rfl, by rw [hresult]⟩

/-- What a route can do with a request that it takes. -/
theorem serve_cases (time : Timestamp) (request : Http.Request) (hub : Hub) (route : Route) :
    (routed? request route = none ∧
      ∃ response, serve time request hub route = (.response response, hub)) ∨
    (∃ message, routed? request route = some (.submit message) ∧ ∃ response,
      serve time request hub route = (.response response, (hub.submit time message).2)) ∨
    (routed? request route = some .openSession ∧
      serve time request hub route = (.socket .chat, hub)) ∨
    ∃ name, routed? request route = some (.openListener name) ∧
      serve time request hub route = (.socket (.listen name), hub) := by
  cases route with
  | health => exact .inl ⟨rfl, _, rfl⟩
  | names => exact .inl ⟨rfl, _, rfl⟩
  | messages =>
    cases hsubmitted : submitted request with
    | error response =>
      exact .inl ⟨by simp only [routed?, hsubmitted], response, by simp only [serve, hsubmitted]⟩
    | ok frame =>
      rcases post_cases time frame hub with
        ⟨limit, response, hframe, hpost⟩ | ⟨message, response, hframe, hpost⟩
      · refine .inl ⟨?_, response, by simp only [serve, hsubmitted, hpost]⟩
        simp only [routed?, hsubmitted, hframe]
        rfl
      · refine .inr (.inl ⟨message, ?_, response, by simp only [serve, hsubmitted, hpost]⟩)
        simp only [routed?, hsubmitted, hframe]
        rfl
  | chat =>
    cases hrefused : socketRefusal? request with
    | some response =>
      refine .inl ⟨by simp [routed?, hrefused], response, ?_⟩
      rw [serve, handshake_refused hrefused]
    | none =>
      refine .inr (.inr (.inl ⟨by simp [routed?, hrefused], ?_⟩))
      rw [serve, handshake_ok hrefused]
  | listen =>
    cases hrefused : socketRefusal? request with
    | some response =>
      refine .inl ⟨by simp [routed?, hrefused], response, ?_⟩
      rw [serve, handshake_refused hrefused]
    | none =>
      cases hname : listenName request.target.query with
      | error response =>
        obtain ⟨refusal, hrefusal⟩ := handshake_error request response
        refine .inl ⟨by simp [routed?, hrefused, hname, Except.toOption], refusal, ?_⟩
        rw [serve, hname]
        exact congrArg (·, hub) hrefusal
      | ok name =>
        refine .inr (.inr (.inr ⟨name, by simp [routed?, hrefused, hname, Except.toOption], ?_⟩))
        rw [serve, hname]
        exact congrArg (·, hub) (handshake_ok hrefused)

/-- **What a request can do**: nothing, submit a message, or open a socket for a session or for a
listener. -/
theorem request_cases (time : Timestamp) (server : Server) (request : Http.Request) :
    (asked? request = none ∧ (server.request time request).2 = server) ∨
    (∃ message, asked? request = some (.submit message) ∧
      (server.request time request).2 = (server.submitMessage time message).2) ∨
    (asked? request = some .openSession ∧ server.request time request =
      (.socket ⟨server.sockets.size⟩, (server.openSocket time .chat).2)) ∨
    ∃ name, asked? request = some (.openListener name) ∧ server.request time request =
      (.socket ⟨server.sockets.size⟩, (server.openSocket time (.listen name)).2) := by
  cases hroute : Route.ofPath? request.target.path with
  | none => exact .inl ⟨by simp only [asked?, hroute], by simp only [Server.request, reply, hroute]⟩
  | some route =>
    cases hmethod : route.methods.contains request.method with
    | false =>
      refine .inl ⟨?_, ?_⟩
      · simp only [asked?, hroute, hmethod]
        rfl
      · simp only [Server.request, reply, hroute, hmethod]
        rfl
    | true =>
      rw [asked?_of_route hroute hmethod]
      rcases serve_cases time request server.hub route with ⟨hrouted, response, hserve⟩ |
          ⟨message, hrouted, response, hserve⟩ | ⟨hrouted, hserve⟩ | ⟨name, hrouted, hserve⟩
      · exact .inl ⟨hrouted, request_of_response hroute hmethod hserve⟩
      · exact .inr (.inl ⟨message, hrouted, request_of_response hroute hmethod hserve⟩)
      · exact .inr (.inr (.inl ⟨hrouted, request_of_socket hroute hmethod hserve⟩))
      · exact .inr (.inr (.inr ⟨name, hrouted, request_of_socket hroute hmethod hserve⟩))

end Server

/-! ### Sockets -/

namespace Socket

/-- The listener that a socket serves, as long as the socket is not over. -/
def listening? (socket : Socket) : Option Listener :=
  match socket.role, socket.finish with
  | .listen listener, none => some listener
  | _, _ => none

/-- The session that a socket serves or served. -/
def chatting? (socket : Socket) : Option SessionId :=
  match socket.role with
  | .chat session => some session
  | .listen _ => none

theorem listening?_of_over {socket : Socket} (h : socket.finish.isNone = false) :
    socket.listening? = none := by
  unfold listening?
  split
  · rename_i hnone
    rw [hnone] at h
    cases h
  · rfl

end Socket

namespace Server

variable {server : Server} {time : Timestamp}

/-- A socket among the others, in whose place another one may be put. -/
theorem exists_between {id : SocketId} {socket : Socket} (h : server.socket? id = some socket) :
    ∃ front back, server.sockets.toList = front ++ socket :: back ∧
      ∀ hub after, (({ server with hub } : Server).put id after).sockets.toList =
        front ++ after :: back := by
  have hget : server.sockets.toList[id.index]? = some socket := by
    rw [Array.getElem?_toList]
    exact h
  obtain ⟨hlt, hget⟩ := List.getElem?_eq_some_iff.1 hget
  refine ⟨server.sockets.toList.take id.index, server.sockets.toList.drop (id.index + 1), ?_,
    fun hub after => ?_⟩
  · rw [← hget, List.getElem_cons_drop, List.take_append_drop]
  · rw [put, Array.toList_setIfInBounds, List.set_eq_take_append_cons_drop, if_pos hlt]

theorem put_self {id : SocketId} {socket : Socket} (h : server.socket? id = some socket) :
    server.put id socket = server := by
  obtain ⟨hub, sockets⟩ := server
  have hsame : sockets.setIfInBounds id.index socket = sockets := by
    refine Array.ext (by simp) fun i hi hi' => ?_
    rw [Array.getElem_setIfInBounds hi']
    split
    · rename_i heq
      subst heq
      exact (Array.getElem?_eq_some_iff.1 h).2.symm
    · rfl
  rw [put, hsame]

theorem receive_eq {id : SocketId} {socket : Socket} (incoming : Incoming)
    (h : server.socket? id = some socket) (hfinish : socket.finish = none) :
    server.receive time id incoming =
      let (finish, hub) :=
        match socket.role with
        | .chat session => hear server.hub session incoming
        | .listen listener => ignore time server.hub listener incoming
      some (({ server with hub } : Server).put id { socket with finish }) := by
  rw [receive, h]
  simp only [Option.bind_eq_bind, Option.bind_some, hfinish]
  rfl

theorem receive_of_over {id : SocketId} {socket : Socket} (incoming : Incoming)
    (h : server.socket? id = some socket) (hfinish : socket.finish.isNone = false) :
    server.receive time id incoming = none := by
  have hover : socket.finish ≠ none := by
    intro hnone
    rw [hnone] at hfinish
    cases hfinish
  rw [receive, h]
  simp [hover]

theorem receive_of_none {id : SocketId} (incoming : Incoming) (h : server.socket? id = none) :
    server.receive time id incoming = none := by
  rw [receive, h]
  rfl

/-- What comes in from a chatting client does to the hub what `heard?` says. -/
theorem hub_hear (stage : Stage) (time : Timestamp) (session : SessionId) (incoming : Incoming)
    {socket : Socket} (h : socket.role = .chat session) :
    (hear stage.hub session incoming).2 =
        (stage.run ((heard? socket incoming).toList.map (time, ·))).hub ∧
      (stage.run ((heard? socket incoming).toList.map (time, ·))).listeners = stage.listeners := by
  rw [heard?, h]
  unfold hear
  by_cases hclose : incoming.isClose = true
  · rw [if_pos hclose]
    simp only [if_pos hclose]
    exact ⟨rfl, rfl⟩
  · rw [if_neg hclose]
    simp only [if_neg hclose]
    cases incoming.arrival? with
    | none => exact ⟨rfl, rfl⟩
    | some arrival => exact ⟨rfl, rfl⟩

/-- What comes in from a listening client ends its socket if and only if its listener is let go. -/
theorem ignore_cases (time : Timestamp) (hub : Hub) {socket : Socket} {listener : Listener}
    (incoming : Incoming) (h : socket.role = .listen listener) :
    (heard? socket incoming = none ∧ ignore time hub listener incoming = (none, hub)) ∨
    ∃ finish, heard? socket incoming = some (.letGo listener) ∧
      ignore time hub listener incoming = (some finish, hub.letGo time listener) := by
  cases incoming with
  | frame frame =>
    cases frame with
    | close => exact .inr ⟨_, by simp only [heard?, h], rfl⟩
    | _ => exact .inl ⟨by simp only [heard?, h], rfl⟩
  | lost => exact .inr ⟨_, by simp only [heard?, h], rfl⟩
  | violated reason => exact .inr ⟨_, by simp only [heard?, h], rfl⟩

/-- A write reads once from the stream behind the socket, sends what it reads, and closes the
socket if nothing more will come. -/
theorem writeTo_eq {hub : Hub} {socket : Socket} {endpoint : EndpointId}
    (hfinish : socket.finish = none) (hendpoint : endpoint? hub socket = some endpoint) :
    writeTo hub socket =
      ({ socket with
          sent := socket.sent ++ ((hub.read endpoint).1.delivery?.map frameText).toList
          finish :=
            if (hub.read endpoint).1 = .ended ∨ (hub.read endpoint).1 = .dropped then some .closed
            else none },
        (hub.read endpoint).2) := by
  rw [writeTo, hfinish, hendpoint]
  obtain ⟨role, sent, finish⟩ := socket
  cases hfinish
  dsimp only
  rcases hub.read endpoint with ⟨reading, after⟩
  cases reading <;> simp [Reading.delivery?]

/-- A write reads at most once from the socket's stream, and changes nothing else of the socket than
what was sent and whether it is closed. -/
theorem writeTo_cases (hub : Hub) (socket : Socket) :
    (writeTo hub socket = (socket, hub) ∧
      (socket.finish.isNone = false ∨ endpoint? hub socket = none)) ∨
    ∃ endpoint, socket.finish = none ∧ endpoint? hub socket = some endpoint ∧
      (writeTo hub socket).2 = (hub.read endpoint).2 ∧
      (writeTo hub socket).1 =
        { socket with
          sent := socket.sent ++ ((hub.read endpoint).1.delivery?.map frameText).toList
          finish :=
            if (hub.read endpoint).1 = .ended ∨ (hub.read endpoint).1 = .dropped then some .closed
            else none } := by
  cases hfinish : socket.finish with
  | some finish =>
    refine .inl ⟨?_, .inl rfl⟩
    rw [writeTo, hfinish]
  | none =>
    cases hendpoint : endpoint? hub socket with
    | none =>
      refine .inl ⟨?_, .inr rfl⟩
      rw [writeTo, hfinish, hendpoint]
    | some endpoint =>
      refine .inr ⟨endpoint, rfl, rfl, ?_⟩
      rw [writeTo_eq hfinish hendpoint]
      exact ⟨rfl, rfl⟩

/-! ### The stage of a server -/

/-- The stage on which a server's hub runs: it has at least the listeners of the sockets that are
not over, and each session is served by one socket. -/
structure Staged (server : Server) (stage : Stage) : Prop where
  hub_eq : stage.hub = server.hub
  listening : (server.sockets.toList.filterMap Socket.listening?).Subperm stage.listeners
  chatting : (server.sockets.toList.filterMap Socket.chatting?).Nodup
  opened : ∀ id ∈ server.sockets.toList.filterMap Socket.chatting?,
    ∃ session, stage.hub.session? id = some session

theorem staged_new (settings : HubSettings) : (new settings).Staged (.new settings) where
  hub_eq := rfl
  listening := .refl []
  chatting := .nil
  opened _ h := by cases h

namespace Staged

variable {stage : Stage} (h : server.Staged stage)
include h

theorem of_move {other : Server} (move : Move) (hhub : other.hub = (stage.step time move).hub)
    (hsockets : other.sockets = server.sockets)
    (hlisteners : (stage.step time move).listeners = stage.listeners) :
    other.Staged (stage.step time move) where
  hub_eq := hhub.symm
  listening := by
    rw [hsockets, hlisteners]
    exact h.listening
  chatting := by
    rw [hsockets]
    exact h.chatting
  opened id hid := by
    rw [hsockets] at hid
    obtain ⟨session, hsession⟩ := h.opened id hid
    obtain ⟨state, hafter, _⟩ := Stage.session_step hsession time move
    exact ⟨_, hafter⟩

/-- At most one move, in which at most one socket changes. -/
theorem of_put {id : SocketId} {socket after : Socket} {hub : Hub} {moves : List (Timestamp × Move)}
    (hsocket : server.socket? id = some socket) (hrole : after.role = socket.role)
    (hhub : hub = (stage.run moves).hub)
    (hlisteners : ∀ front back : List Listener,
      (front ++ socket.listening?.toList ++ back).Subperm stage.listeners →
      (front ++ after.listening?.toList ++ back).Subperm (stage.run moves).listeners) :
    (({ server with hub } : Server).put id after).Staged (stage.run moves) := by
  obtain ⟨front, back, hbefore, hafter⟩ := exists_between hsocket
  have hsplit : ∀ {α : Type} (view : Socket → Option α) (middle : Socket),
      (front ++ middle :: back).filterMap view =
        front.filterMap view ++ (view middle).toList ++ back.filterMap view := by
    intro α view middle
    rw [List.filterMap_append]
    cases hview : view middle with
    | none => rw [List.filterMap_cons_none hview, Option.toList_none, List.append_nil]
    | some value =>
      rw [List.filterMap_cons_some hview, Option.toList_some, List.append_assoc,
        List.singleton_append]
  have hchatting : after.chatting? = socket.chatting? := by
    rw [Socket.chatting?, hrole, Socket.chatting?]
  have hchats : (({ server with hub } : Server).put id after).sockets.toList.filterMap
      Socket.chatting? = server.sockets.toList.filterMap Socket.chatting? := by
    rw [hafter, hbefore, hsplit, hsplit, hchatting]
  refine ⟨hhub.symm, ?_, ?_, fun id hid => ?_⟩
  · rw [hafter, hsplit]
    refine hlisteners _ _ ?_
    rw [← hsplit, ← hbefore]
    exact h.listening
  · rw [hchats]
    exact h.chatting
  · rw [hchats] at hid
    obtain ⟨session, hsession⟩ := h.opened id hid
    obtain ⟨state, hafter⟩ := Stage.session_run hsession moves
    exact ⟨_, hafter⟩

theorem step_chat : (server.openSocket time .chat).2.Staged (stage.step time .openSession) where
  hub_eq := by
    rw [Stage.step, h.hub_eq]
    rfl
  listening := by
    have hlistening : (server.openSocket time .chat).2.sockets.toList.filterMap
        Socket.listening? = server.sockets.toList.filterMap Socket.listening? := by
      simp only [openSocket, Array.toList_push, List.filterMap_append]
      exact List.append_nil _
    rw [hlistening]
    exact h.listening
  chatting := by
    simp only [openSocket, Array.toList_push, List.filterMap_append]
    refine List.nodup_append.2 ⟨h.chatting, List.nodup_singleton _, fun id hid other hother => ?_⟩
    -- the new session has a number that no other session has
    obtain ⟨session, hsession⟩ := h.opened id hid
    obtain ⟨hlt, _⟩ := Array.getElem?_eq_some_iff.1 hsession
    cases List.mem_singleton.1 hother
    rintro rfl
    rw [h.hub_eq] at hlt
    exact Nat.lt_irrefl _ hlt
  opened id hid := by
    simp only [openSocket, Array.toList_push, List.filterMap_append] at hid
    rcases List.mem_append.1 hid with hid | hid
    · obtain ⟨session, hsession⟩ := h.opened id hid
      obtain ⟨state, hafter, _⟩ := Stage.session_step hsession time .openSession
      exact ⟨_, hafter⟩
    · cases List.mem_singleton.1 hid
      rw [← h.hub_eq]
      exact ⟨_, Array.getElem?_push_size⟩

theorem step_listen (name : Name) :
    (server.openSocket time (.listen name)).2.Staged (stage.step time (.openListener name)) where
  hub_eq := by
    rw [Stage.step, h.hub_eq]
    rfl
  listening := by
    simp only [openSocket, Array.toList_push, List.filterMap_append]
    have hnew : (stage.step time (.openListener name)).listeners =
        (server.hub.openListener time name).1 :: stage.listeners := by
      rw [Stage.step, h.hub_eq]
    rw [hnew]
    exact (List.perm_append_singleton _ _).subperm.trans ((List.subperm_cons _).2 h.listening)
  chatting := by
    have hchatting : (server.openSocket time (.listen name)).2.sockets.toList.filterMap
        Socket.chatting? = server.sockets.toList.filterMap Socket.chatting? := by
      simp only [openSocket, Array.toList_push, List.filterMap_append]
      exact List.append_nil _
    rw [hchatting]
    exact h.chatting
  opened id hid := by
    simp only [openSocket, Array.toList_push, List.filterMap_append] at hid
    rcases List.mem_append.1 hid with hid | hid
    · obtain ⟨session, hsession⟩ := h.opened id hid
      obtain ⟨state, hafter, _⟩ := Stage.session_step hsession time (.openListener name)
      exact ⟨_, hafter⟩
    · cases hid

theorem step_receive (id : SocketId) (incoming : Incoming) :
    (server.step time (.receive id incoming)).Staged
      (stage.run ((server.move? (.receive id incoming)).toList.map (time, ·))) := by
  cases hsocket : server.socket? id with
  | none =>
    simp only [step, move?, receive_of_none incoming hsocket, hsocket]
    exact h
  | some socket =>
    cases hfinish : socket.finish with
    | some finish =>
      have hover : socket.finish.isNone = false := by rw [hfinish]; rfl
      simp only [step, move?, receive_of_over incoming hsocket hover, hsocket, hfinish]
      exact h
    | none =>
      simp only [step, move?, receive_eq incoming hsocket hfinish, hsocket, hfinish,
        Option.isNone_none, if_true, Option.getD_some]
      cases hrole : socket.role with
      | chat session =>
        obtain ⟨hhub, hlisteners⟩ := hub_hear stage time session incoming hrole
        rw [h.hub_eq] at hhub
        have hquiet : socket.listening? = none := by simp only [Socket.listening?, hrole]
        refine h.of_put hsocket hrole.symm hhub fun front back hsub => ?_
        rw [hlisteners]
        rwa [hquiet] at hsub
      | listen listener =>
        dsimp only
        have hserved : socket.listening? = some listener := by
          simp only [Socket.listening?, hrole, hfinish]
        rcases ignore_cases time server.hub incoming hrole with
            ⟨hheard, hignore⟩ | ⟨finish, hheard, hignore⟩
        · rw [hignore, hheard]
          refine h.of_put hsocket hrole.symm h.hub_eq.symm fun front back hsub => ?_
          rwa [hserved] at hsub
        · rw [hignore, hheard]
          have hmem : listener ∈ stage.listeners := by
            refine h.listening.subset ?_
            exact List.mem_filterMap.2 ⟨socket, Array.mem_toList_iff.2
              (Array.mem_of_getElem? hsocket), hserved⟩
          refine h.of_put hsocket hrole.symm ?_ fun front back hsub => ?_
          · simp only [Option.toList_some, List.map_cons, List.map_nil, Stage.run, List.foldl_cons,
              List.foldl_nil, Stage.step, if_pos hmem]
            rw [h.hub_eq]
          · simp only [Option.toList_some, List.map_cons, List.map_nil, Stage.run, List.foldl_cons,
              List.foldl_nil, Stage.step, if_pos hmem]
            rw [hserved, Option.toList_some, List.append_assoc] at hsub
            have hfirst := (List.perm_middle.symm.subperm.trans hsub).erase listener
            rw [List.erase_cons_head] at hfirst
            change List.Subperm (front ++ [] ++ back) _
            rwa [List.append_nil]

theorem step_write (id : SocketId) :
    (server.step time (.write id)).Staged
      (stage.run ((server.move? (.write id)).toList.map (time, ·))) := by
  cases hsocket : server.socket? id with
  | none =>
    simp only [step, write, move?, hsocket]
    exact h
  | some socket =>
    simp only [step, write, move?, hsocket]
    rcases writeTo_cases server.hub socket with
        ⟨hsame, hidle⟩ | ⟨endpoint, hfinish, hendpoint, hhub, hafter⟩
    · have hmove : (if socket.finish.isNone then (endpoint? server.hub socket).map Move.read
          else none) = none := by
        rcases hidle with hover | hnone
        · rw [hover]
          rfl
        · rw [hnone]
          simp
      rw [hmove, hsame]
      exact h.of_put hsocket rfl h.hub_eq.symm fun front back hsub => hsub
    · rw [hfinish, hendpoint]
      refine h.of_put hsocket (by rw [hafter]) ?_ fun front back hsub => ?_
      · rw [hhub, ← h.hub_eq]
        rfl
      · -- the socket may have been closed, and serves nobody then
        change List.Subperm _ stage.listeners
        have hless : (writeTo server.hub socket).1.listening? = socket.listening? ∨
            (writeTo server.hub socket).1.listening? = none := by
          rw [hafter]
          split
          · exact .inr (Socket.listening?_of_over rfl)
          · exact .inl (by simp only [Socket.listening?, hfinish])
        rcases hless with hsame | hnone
        · rwa [hsame]
        · refine List.Subperm.trans (List.Sublist.subperm ?_) hsub
          rw [hnone, Option.toList_none, List.append_nil]
          exact (List.sublist_append_left front _).append (List.Sublist.refl back)

/-- **The projection commutes with the step**: what an incident does to the hub is at most one move
of the hub. -/
theorem step (incident : Incident) :
    (server.step time incident).Staged
      (stage.run ((server.move? incident).toList.map (time, ·))) := by
  cases incident with
  | request request =>
    simp only [Server.step, move?]
    rcases request_cases time server request with ⟨hasked, hsame⟩ | ⟨message, hasked, hafter⟩ |
        ⟨hasked, hafter⟩ | ⟨name, hasked, hafter⟩
    · rw [hasked, hsame]
      exact h
    · rw [hasked, hafter]
      refine h.of_move (.submit message) ?_ rfl rfl
      rw [Stage.step, h.hub_eq]
      rfl
    · rw [hasked, hafter]
      exact h.step_chat
    · rw [hasked, hafter]
      exact h.step_listen name
  | receive id incoming => exact h.step_receive id incoming
  | turn id =>
    refine h.of_move (.turn id) ?_ rfl rfl
    rw [Stage.step, h.hub_eq]
    rfl
  | write id => exact h.step_write id
  | submit message =>
    refine h.of_move (.submit message) ?_ rfl rfl
    rw [Stage.step, h.hub_eq]
    rfl
  | shutDown =>
    refine h.of_move .shutDown ?_ rfl rfl
    rw [Stage.step, h.hub_eq]
    rfl

theorem run (incidents : List (Timestamp × Incident)) :
    (server.run incidents).Staged (stage.run (server.moves incidents)) := by
  induction incidents generalizing server stage with
  | nil => exact h
  | cons incident rest ih =>
    rw [moves, Stage.run_append]
    exact ih (h.step incident.2)

end Staged

/-- **The hub of a server that runs is a hub that runs.** -/
theorem staged_run (settings : HubSettings) (incidents : List (Timestamp × Incident)) :
    ((new settings).run incidents).Staged
      ((Stage.new settings).run ((new settings).moves incidents)) :=
  (staged_new settings).run incidents

end Server

end BroadcastChat
