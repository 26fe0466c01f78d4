/-
# One socket in a run

A server has many sockets, and each incident concerns one of them at most. The
socket of a client that listens is sent what is read from its own endpoint's
stream and nothing else, for as long as the endpoint is open
(`Server.Staged.listening_run`); nobody else reads that stream
(`Server.Staged.write_of_read`). The client makes of it what was handed out
(`Client.deliveries_sent`). And only what comes in over the socket of a client
that chats concerns the session behind it (`Server.Staged.concerns_ne`).

Key definitions: `Server.Incident.heardOn?`, `Server.received`,
`Server.reaching`.
Key theorems: `Server.socket?_step_of_other`, `Server.Staged.place_of_chat`,
`Server.Staged.place_of_listener`, `Server.Staged.concerns_ne`,
`Server.Staged.write_of_read`, `Server.Staged.listening_step`,
`Server.Staged.listening_run`, `Client.deliveries_sent`,
`Server.reaching_run`, `Server.received_of_writes`.
-/
import BroadcastChat.Proofs.Gateway
import BroadcastChat.Proofs.Outbound
import BroadcastChat.Proofs.Utterance

namespace BroadcastChat

theorem Endpoint.read_of_open {endpoint : Endpoint} (h : ¬endpoint.isClosed = true) :
    ¬(endpoint.read.1 = .ended ∨ endpoint.read.1 = .dropped) := by
  have hopen : endpoint.shut = false ∧ endpoint.dropped = false := by simpa [isClosed] using h
  rw [fst_read, if_neg (by simp [hopen.2])]
  cases endpoint.unread with
  | nil => simp [isFinal, hopen.1]
  | cons delivery rest => simp

theorem Endpoint.length_read_of_open {endpoint : Endpoint} (h : ¬endpoint.isClosed = true) :
    endpoint.read.2.unread.length = endpoint.unread.length - 1 := by
  have hopen : endpoint.shut = false ∧ endpoint.dropped = false := by simpa [isClosed] using h
  unfold read
  rw [if_neg (by simp [hopen.2])]
  split
  · rename_i hnil
    rw [hnil]
    rfl
  · rename_i delivery rest hcons
    have hlength : endpoint.unread.length = rest.length + 1 := congrArg List.length hcons
    change rest.length = endpoint.unread.length - 1
    omega

/-- In a list in which each value is seen once, one place shows it. -/
theorem index_eq_of_nodup {α β : Type} {view : α → Option β} {l : List α}
    (h : (l.filterMap view).Nodup) {i j : Nat} {a b : α} {value : β} (ha : l[i]? = some a)
    (hb : l[j]? = some b) (hview : view a = some value) (hview' : view b = some value) : i = j := by
  obtain ⟨hi, rfl⟩ := List.getElem?_eq_some_iff.1 ha
  obtain ⟨hj, rfl⟩ := List.getElem?_eq_some_iff.1 hb
  rw [List.Nodup, List.pairwise_filterMap, List.pairwise_iff_getElem] at h
  by_contra hne
  rcases Nat.lt_or_gt_of_ne hne with hlt | hlt
  · exact h i j hi hj hlt _ hview _ hview' rfl
  · exact h j i hj hi hlt _ hview' _ hview rfl

namespace Server

variable {server : Server} {time : Timestamp} {place other : SocketId} {socket : Socket}
  {incident : Incident}

/-! ### Sockets that an incident leaves alone -/

/-- What comes in over a socket. -/
def Incident.heardOn? (place : SocketId) : Incident → Option Incoming
  | .receive id incoming => if id = place then some incoming else none
  | _ => none

theorem Incident.eq_of_heardOn? {incoming : Incoming}
    (h : incident.heardOn? place = some incoming) :
    incident = .receive place incoming := by
  cases incident with
  | receive id heard =>
    simp only [heardOn?, Option.ite_none_right_eq_some] at h
    obtain ⟨rfl, heq⟩ := h
    cases heq
    rfl
  | _ => cases h

theorem socket?_put_self {hub : Hub} (h : server.socket? place = some socket) (after : Socket) :
    (({ server with hub } : Server).put place after).socket? place = some after := by
  obtain ⟨hlt, -⟩ := Array.getElem?_eq_some_iff.1 h
  rw [socket?, put, Array.getElem?_setIfInBounds_self_of_lt hlt]

theorem socket?_put_of_ne {hub : Hub} (h : other ≠ place) (after : Socket) :
    (({ server with hub } : Server).put other after).socket? place = server.socket? place := by
  have hindex : other.index ≠ place.index := fun heq => h (by cases other; cases place; simp_all)
  exact Array.getElem?_setIfInBounds_ne hindex

theorem socket?_openSocket (h : server.socket? place = some socket) (purpose : Purpose) :
    (server.openSocket time purpose).2.socket? place = some socket := by
  obtain ⟨hlt, hget⟩ := Array.getElem?_eq_some_iff.1 h
  exact (Array.getElem?_push_lt hlt).trans (congrArg some hget)

theorem socket?_receive_of_ne (h : server.socket? place = some socket) (hne : other ≠ place)
    (incoming : Incoming) :
    (server.step time (.receive other incoming)).socket? place = some socket := by
  cases hother : server.socket? other with
  | none =>
    rw [step, receive_of_none incoming hother]
    exact h
  | some heard =>
    cases hfinish : heard.finish with
    | some finish =>
      have hover : heard.finish.isNone = false := by rw [hfinish]; rfl
      rw [step, receive_of_over incoming hother hover]
      exact h
    | none =>
      obtain ⟨finish, hub, hreceive⟩ : ∃ finish hub, server.receive time other incoming =
          some (({ server with hub } : Server).put other { heard with finish }) :=
        ⟨_, _, receive_eq incoming hother hfinish⟩
      rw [step, hreceive, Option.getD_some, socket?_put_of_ne hne, h]

/-- **A socket stays as it is** unless something comes in over it or is written to it. -/
theorem socket?_step_of_other (h : server.socket? place = some socket)
    (hheard : incident.heardOn? place = none) (hwrite : incident ≠ .write place) :
    (server.step time incident).socket? place = some socket := by
  cases incident with
  | request request =>
    rw [step]
    rcases request_cases time server request with ⟨-, hsame⟩ | ⟨message, -, hafter⟩ |
        ⟨-, hafter⟩ | ⟨name, -, hafter⟩
    · rw [hsame, h]
    · rw [hafter]
      exact h
    · rw [hafter]
      dsimp only
      exact socket?_openSocket h _
    · rw [hafter]
      dsimp only
      exact socket?_openSocket h _
  | receive id incoming =>
    refine socket?_receive_of_ne h (fun heq => ?_) incoming
    rw [Incident.heardOn?, if_pos heq] at hheard
    cases hheard
  | write id =>
    have hne : id ≠ place := fun heq => hwrite (congrArg _ heq)
    rw [step, write]
    cases server.socket? id with
    | none => exact h
    | some written => exact (socket?_put_of_ne hne _).trans h
  | _ => exact h

theorem socket?_write (h : server.socket? place = some socket) :
    (server.step time (.write place)).socket? place = some (writeTo server.hub socket).1 := by
  rw [step, write, h]
  exact socket?_put_self h _

/-- Whatever is written to a socket, it serves whom it served. -/
theorem role_step (h : server.socket? place = some socket) (hheard : incident.heardOn? place = none)
    (time : Timestamp) : ∃ after, (server.step time incident).socket? place = some after ∧
      after.role = socket.role := by
  by_cases hwrite : incident = .write place
  · rw [hwrite]
    refine ⟨_, socket?_write h, ?_⟩
    rcases writeTo_cases server.hub socket with ⟨hsame, -⟩ | ⟨endpoint, -, -, -, hafter⟩
    · rw [hsame]
    · rw [hafter]
  · exact ⟨socket, socket?_step_of_other h hheard hwrite, rfl⟩

/-! ### Which socket -/

/-- Where a view shows each value once, one socket shows it. -/
theorem place_eq_of_nodup {α : Type} {view : Socket → Option α} {socket' : Socket} {value : α}
    (h : (server.sockets.toList.filterMap view).Nodup)
    (hsocket : server.socket? place = some socket) (hother : server.socket? other = some socket')
    (hview : view socket = some value) (hview' : view socket' = some value) : place = other := by
  have hplace : server.sockets.toList[place.index]? = some socket := by
    rw [Array.getElem?_toList]
    exact hsocket
  have hindex : place.index = other.index := by
    refine index_eq_of_nodup h hplace ?_ hview hview'
    rw [Array.getElem?_toList]
    exact hother
  cases place
  cases other
  cases hindex
  rfl

namespace Staged

variable {stage : Stage} {log : List Event} (h : server.Staged stage)
include h

/-- Each session has one socket. -/
theorem place_of_chat {socket' : Socket} {id : SessionId}
    (hsocket : server.socket? place = some socket) (hother : server.socket? other = some socket')
    (hid : socket.role = .chat id) (hid' : socket'.role = .chat id) : place = other := by
  have hview : socket.chatting? = some id := by rw [Socket.chatting?, hid]
  have hview' : socket'.chatting? = some id := by rw [Socket.chatting?, hid']
  exact place_eq_of_nodup h.chatting hsocket hother hview hview'

/-- Who listens over a socket that is not over has not been let go of. -/
theorem mem_listeners {listener : Listener} (hsocket : server.socket? place = some socket)
    (hserved : socket.listening? = some listener) : listener ∈ stage.listeners := by
  refine h.listening.subset (List.mem_filterMap.2 ⟨socket, ?_, hserved⟩)
  exact Array.mem_toList_iff.2 (Array.mem_of_getElem? hsocket)

theorem place_of_listener (hsound : stage.Sound log) {socket' : Socket} {l l' : Listener}
    (hsocket : server.socket? place = some socket) (hother : server.socket? other = some socket')
    (hl : socket.listening? = some l) (hl' : socket'.listening? = some l')
    (heq : l.endpoint = l'.endpoint) : place = other := by
  obtain rfl : l = l' := hsound.listener_unique (h.mem_listeners hsocket hl)
    (h.mem_listeners hother hl') heq
  have hnodup : (server.sockets.toList.filterMap Socket.listening?).Nodup := by
    obtain ⟨served, hperm, hsub⟩ := h.listening
    have hlisteners : stage.listeners.Nodup :=
      (List.nodup_append.1 hsound.nodup_owners).2.1.of_map _
    exact hperm.nodup_iff.1 (hsub.nodup hlisteners)
  exact place_eq_of_nodup hnodup hsocket hother hl hl'

/-! ### Which move -/

/-- **Only what comes in over its socket concerns a session.** -/
theorem concerns_ne {id : SessionId} {move : Move} (hsocket : server.socket? place = some socket)
    (hrole : socket.role = .chat id) (hheard : incident.heardOn? place = none)
    (hmove : server.move? incident = some move) : move.concerns? stage.hub ≠ some id := by
  cases incident with
  | request request =>
    rw [move?] at hmove
    rcases request_cases ⟨0⟩ server request with ⟨hasked, -⟩ | ⟨message, hasked, -⟩ |
        ⟨hasked, -⟩ | ⟨name, hasked, -⟩
    all_goals
      rw [hasked] at hmove
      cases hmove
    · simp [Move.concerns?]
    · -- a session that is opened gets a new number
      intro heq
      cases heq
      have hmem : (⟨stage.hub.sessions.size⟩ : SessionId) ∈
          server.sockets.toList.filterMap Socket.chatting? := by
        refine List.mem_filterMap.2 ⟨socket, Array.mem_toList_iff.2
          (Array.mem_of_getElem? hsocket), ?_⟩
        rw [Socket.chatting?, hrole]
      obtain ⟨session, hsession⟩ := h.opened _ hmem
      obtain ⟨hlt, -⟩ := Array.getElem?_eq_some_iff.1 hsession
      exact Nat.lt_irrefl _ hlt
    · simp [Move.concerns?]
  | receive other incoming =>
    have hne : other ≠ place := by
      rintro rfl
      rw [Incident.heardOn?, if_pos rfl] at hheard
      cases hheard
    simp only [move?] at hmove
    split at hmove
    · cases hmove
    · rename_i heard hother
      simp only [Option.ite_none_right_eq_some] at hmove
      obtain ⟨-, hmove⟩ := hmove
      unfold heard? at hmove
      split at hmove
      · rename_i session hchat
        have hsession : session ≠ id := by
          rintro rfl
          exact hne (h.place_of_chat hother hsocket hchat hrole)
        split at hmove
        · cases hmove
          simpa [Move.concerns?] using hsession
        · obtain ⟨arrival, -, rfl⟩ := Option.map_eq_some_iff.1 hmove
          simpa [Move.concerns?] using hsession
      · split at hmove
        all_goals cases hmove
        all_goals simp [Move.concerns?]
  | write other =>
    simp only [move?] at hmove
    split at hmove
    · cases hmove
    · simp only [Option.ite_none_right_eq_some] at hmove
      obtain ⟨-, hmove⟩ := hmove
      obtain ⟨endpoint, -, rfl⟩ := Option.map_eq_some_iff.1 hmove
      simp [Move.concerns?]
  | _ =>
    cases hmove
    simp [Move.concerns?]

/-- **Nobody else reads the stream of a client that listens.** -/
theorem write_of_read (hsound : stage.Sound log) {listener : Listener}
    (hsocket : server.socket? place = some socket) (hserved : socket.listening? = some listener)
    (hmove : server.move? incident = some (.read listener.endpoint)) :
    incident = .write place := by
  cases incident with
  | request request =>
    rw [move?] at hmove
    rcases request_cases ⟨0⟩ server request with ⟨hasked, -⟩ | ⟨message, hasked, -⟩ |
        ⟨hasked, -⟩ | ⟨name, hasked, -⟩
    all_goals
      rw [hasked] at hmove
      cases hmove
  | receive other incoming =>
    simp only [move?] at hmove
    split at hmove
    · cases hmove
    · simp only [Option.ite_none_right_eq_some] at hmove
      obtain ⟨-, hmove⟩ := hmove
      unfold heard? at hmove
      split at hmove
      · split at hmove
        · cases hmove
        · obtain ⟨arrival, -, heq⟩ := Option.map_eq_some_iff.1 hmove
          cases heq
      · split at hmove <;> cases hmove
  | write other =>
    simp only [move?] at hmove
    split at hmove
    · cases hmove
    · rename_i written hother
      simp only [Option.ite_none_right_eq_some] at hmove
      obtain ⟨hfinish, hmove⟩ := hmove
      obtain ⟨endpoint, hendpoint, heq⟩ := Option.map_eq_some_iff.1 hmove
      cases heq
      unfold endpoint? at hendpoint
      split at hendpoint
      · -- no session has the endpoint of a listener
        obtain ⟨session, hsession, heq⟩ := Option.map_eq_some_iff.1 hendpoint
        rw [← h.hub_eq] at hsession
        exact absurd heq
          (hsound.endpoint_ne (Stage.mem_sessions hsession) (h.mem_listeners hsocket hserved))
      · rename_i l hrole
        have hl : written.listening? = some l := by
          have hnone : written.finish = none := Option.isNone_iff_eq_none.1 hfinish
          simp only [Socket.listening?, hrole, hnone]
        rw [h.place_of_listener hsound hother hsocket hl hserved (Option.some.inj hendpoint)]
  | _ => cases hmove

end Staged

/-! ### What a listening client is sent -/

theorem history_toList (move : Option Move) (stage : Stage) :
    history (move.toList.map (time, ·)) stage = move.toList.map (Moment.mk stage time) := by
  cases move <;> rfl

/-- Where nobody reads the stream nothing is read of it. -/
theorem readFrom_of_ne {move : Option Move} {e : EndpointId} {stage : Stage}
    (h : move ≠ some (.read e)) :
    readFrom e (history (move.toList.map (time, ·)) stage) = [] := by
  rw [history_toList]
  cases move with
  | none => rfl
  | some move =>
    have hnone : Moment.read? e ⟨stage, time, move⟩ = none := by
      cases move with
      | read id =>
        have hne : id ≠ e := fun heq => h (by rw [heq])
        simp only [Moment.read?, if_neg hne]
      | _ => rfl
    exact List.filterMap_cons_none hnone

namespace Staged

variable {stage : Stage} {log : List Event} {listener : Listener} {sent : List String}
  (h : server.Staged stage) (hsound : stage.Sound log)
  (hsocket : server.socket? place = some ⟨.listen listener, sent, none⟩)
include h hsocket

omit h in
theorem listening_write (hopen : ¬server.hub.store.Closed listener.endpoint) :
    (server.step time (.write place)).hub = (server.hub.read listener.endpoint).2 ∧
      (server.step time (.write place)).socket? place = some ⟨.listen listener,
        sent ++ (server.hub.read listener.endpoint).1.delivery?.toList.map frameText, none⟩ := by
  rcases writeTo_cases server.hub ⟨.listen listener, sent, none⟩ with
      ⟨-, hidle⟩ | ⟨endpoint, -, hendpoint, hhub, hafter⟩
  · rcases hidle with hidle | hidle <;> cases hidle
  · cases hendpoint
    have hstill : ¬((server.hub.read listener.endpoint).1 = .ended ∨
        (server.hub.read listener.endpoint).1 = .dropped) := Endpoint.read_of_open hopen
    refine ⟨?_, ?_⟩
    · rw [Server.step, write, hsocket, ← hhub]
      rfl
    · rw [socket?_write hsocket, hafter, if_neg hstill]
      cases (server.hub.read listener.endpoint).1.delivery? <;> rfl

theorem readFrom_write :
    readFrom listener.endpoint
        (history ((server.move? (.write place)).toList.map (time, ·)) stage) =
      (server.hub.read listener.endpoint).1.delivery?.toList := by
  have hmove : server.move? (.write place) = some (.read listener.endpoint) := by
    simp only [move?, hsocket, endpoint?, Option.map_some]
    rfl
  rw [hmove, history_toList, ← h.hub_eq]
  change List.filterMap _ [_] = _
  rw [List.filterMap_cons, Moment.read?]
  dsimp only
  rw [if_pos rfl]
  cases (stage.hub.read listener.endpoint).1.delivery? <;> rfl

include hsound

theorem has_endpoint : stage.hub.store.Has listener.endpoint := by
  have hmem : listener ∈ stage.listeners := h.mem_listeners hsocket rfl
  exact hsound.books.has_owned (Stage.mem_notes.2 (.inr ⟨listener, hmem, rfl⟩))
    listener.owned_note

/-- **In each incident a client that listens is sent what is read from its stream**, unless its
endpoint is closed. -/
theorem listening_step (hopen : ¬(server.step time incident).hub.store.Closed listener.endpoint) :
    (server.step time incident).socket? place =
      some ⟨.listen listener, sent ++ (readFrom listener.endpoint
        (history ((server.move? incident).toList.map (time, ·)) stage)).map frameText, none⟩ := by
  have hhas := h.has_endpoint hsound hsocket
  have hafter : ¬(stage.run ((server.move? incident).toList.map (time, ·))).hub.store.Closed
      listener.endpoint := by
    rw [(h.step incident).hub_eq]
    exact hopen
  have hbefore : ¬server.hub.store.Closed listener.endpoint := by
    intro hc
    rw [← h.hub_eq] at hc
    exact hafter (Stage.closed_run _ hhas hc).2
  by_cases hwrite : incident = .write place
  · rw [hwrite, h.readFrom_write hsocket]
    exact (listening_write hsocket hbefore).2
  · have hread : readFrom listener.endpoint
        (history ((server.move? incident).toList.map (time, ·)) stage) = [] :=
      readFrom_of_ne fun hmove => hwrite (h.write_of_read hsound hsocket rfl hmove)
    rw [hread, List.map_nil, List.append_nil]
    cases hheard : incident.heardOn? place with
    | none => exact socket?_step_of_other hsocket hheard hwrite
    | some incoming =>
      cases Incident.eq_of_heardOn? hheard
      rcases ignore_cases time server.hub incoming (rfl : (Socket.mk (.listen listener) sent
          none).role = .listen listener) with ⟨-, hignore⟩ | ⟨finish, hlet, -⟩
      · rw [Server.step, receive_eq incoming hsocket rfl]
        dsimp only
        rw [hignore]
        exact socket?_put_self hsocket _
      · -- who is let go of is closed
        have hmove : server.move? (.receive place incoming) = some (.letGo listener) := by
          simp only [move?, hsocket]
          exact hlet
        rw [hmove] at hafter
        refine absurd ?_ hafter
        have hrun := Moment.isRun_letGo time (h.mem_listeners hsocket rfl)
        change (Moment.after ⟨stage, time, .letGo listener⟩).hub.store.Closed _
        rw [hrun.store_eq]
        exact Program.closed_of_mem_drops hhas (Program.mem_drops_letGo listener)

/-- **A client that listens is sent what is read from its stream**, as long as its endpoint is
open. -/
theorem listening_run (incidents : List (Timestamp × Incident))
    (hopen : ¬(server.run incidents).hub.store.Closed listener.endpoint) :
    (server.run incidents).socket? place =
      some ⟨.listen listener, sent ++ (readFrom listener.endpoint
        (history (server.moves incidents) stage)).map frameText, none⟩ := by
  induction incidents generalizing server stage log sent with
  | nil =>
    rw [moves, history, readFrom, List.filterMap_nil, List.map_nil, List.append_nil]
    exact hsocket
  | cons incident rest ih =>
    obtain ⟨time, incident⟩ := incident
    have hstaged : (server.step time incident).Staged
        (stage.run ((server.move? incident).toList.map (time, ·))) := h.step incident
    have hnext := hsound.run ((server.move? incident).toList.map (time, ·))
    have hnow : ¬(server.step time incident).hub.store.Closed listener.endpoint := by
      intro hc
      have hhas := Stage.has_run ((server.move? incident).toList.map (time, ·))
        (h.has_endpoint hsound hsocket)
      rw [← hstaged.hub_eq] at hc
      refine hopen ?_
      change ((server.step time incident).run rest).hub.store.Closed _
      rw [← (hstaged.run rest).hub_eq]
      exact (Stage.closed_run _ hhas hc).2
    have hlater := ih hstaged hnext (h.listening_step hsound hsocket hnow) hopen
    change ((server.step time incident).run rest).socket? place = _
    rw [hlater, moves, history_append, readFrom, readFrom, readFrom, List.filterMap_append,
      List.map_append, List.append_assoc]

end Staged

end Server

/-! ### What the client makes of it -/

namespace Client

variable {incoming : Incoming} {all : List Incoming}

theorem deliveries_eq (all : List Incoming) :
    deliveries all =
      match nextDelivery all with
      | none => []
      | some (.error error, _) => [.error error]
      | some (.ok frame, rest) => .ok frame :: deliveries rest := by
  rw [deliveries.eq_def]
  split
  all_goals
    rename_i hnext
    simp only [hnext]

theorem deliveries_nil : deliveries [] = [] := by
  rw [deliveries_eq, nextDelivery]

theorem deliveries_of_nothing (h : received incoming = .nothing) :
    deliveries (incoming :: all) = deliveries all := by
  have hnext : nextDelivery (incoming :: all) = nextDelivery all := by rw [nextDelivery, h]
  rw [deliveries_eq, deliveries_eq all, hnext]

theorem deliveries_of_delivery {frame : DeliveryFrame} (h : received incoming = .delivery frame) :
    deliveries (incoming :: all) = .ok frame :: deliveries all := by
  have hnext : nextDelivery (incoming :: all) = some (.ok frame, all) := by rw [nextDelivery, h]
  rw [deliveries_eq, hnext]

theorem deliveries_append (texts more : List String) :
    deliveries (Network.arrived (texts ++ more) none) =
      deliveries (Network.arrived texts none) ++ deliveries (Network.arrived more none) := by
  have harrived : ∀ texts : List String,
      Network.arrived texts none = texts.map fun text => Incoming.frame (.text text) :=
    fun texts => List.append_nil _
  simp only [harrived]
  induction texts with
  | nil =>
    rw [List.map_nil, deliveries_nil]
    rfl
  | cons text rest ih =>
    rw [List.cons_append, List.map_cons, List.map_cons]
    cases hread : DeliveryFrame.reader.read text with
    | error fault =>
      have hnothing : received (.frame (.text text)) = .nothing := by rw [received, hread]
      rw [deliveries_of_nothing hnothing, deliveries_of_nothing hnothing, ih]
    | ok frame =>
      have hdelivery : received (.frame (.text text)) = .delivery frame := by rw [received, hread]
      rw [deliveries_of_delivery hdelivery, deliveries_of_delivery hdelivery, ih, List.cons_append]

/-- **Whatever is sent comes in as it was handed out.** -/
theorem deliveries_sent (ds : List Delivery) :
    deliveries (Network.arrived (ds.map Server.frameText) none) =
      (ds.map DeliveryFrame.ofDelivery).map .ok := by
  induction ds with
  | nil => exact deliveries_nil
  | cons d rest ih =>
    have hone : deliveries (Network.arrived [Server.frameText d] none) =
        [.ok (.ofDelivery d)] := by
      change deliveries [Incoming.frame (.text (Server.frameText d))] = _
      rw [deliveries_of_delivery (received_frameText d), deliveries_nil]
    rw [List.map_cons, ← List.singleton_append, deliveries_append, hone, ih]
    rfl

end Client

namespace Server

variable {server : Server} {place : SocketId} {listener : Listener} {sent : List String}

/-- What is queued for a socket. -/
def queued (hub : Hub) (socket : Socket) : List Delivery :=
  (endpoint? hub socket).elim [] fun endpoint => (hub.store.endpoint endpoint).unread

/-- The deliveries that a client has found in what it was sent over a socket. -/
def received (server : Server) (place : SocketId) : List (Except Client.Error DeliveryFrame) :=
  (server.socket? place).elim [] fun socket =>
    Client.deliveries (Network.arrived socket.sent socket.finish)

/-- The deliveries that a client finds there when everything queued for it has been sent. -/
def reaching (server : Server) (place : SocketId) : List (Except Client.Error DeliveryFrame) :=
  (server.socket? place).elim [] fun socket =>
    Client.deliveries
      (Network.arrived (socket.sent ++ (queued server.hub socket).map frameText) socket.finish)

section

variable (hsocket : server.socket? place = some ⟨.listen listener, sent, none⟩)
include hsocket

theorem reaching_eq :
    server.reaching place = Client.deliveries (Network.arrived
      (sent ++ (server.hub.store.endpoint listener.endpoint).unread.map frameText) none) := by
  rw [reaching, hsocket]
  rfl

/-- **What reaches a client that listens grows by what its endpoint accepts**, as long as this is
open. -/
theorem reaching_run {stage : Stage} {log : List Event} (hstaged : server.Staged stage)
    (hsound : stage.Sound log) (incidents : List (Timestamp × Incident))
    (hopen : ¬(server.run incidents).hub.store.Closed listener.endpoint) :
    (server.run incidents).reaching place = server.reaching place ++
      ((accepted (logOf (history (server.moves incidents) stage)) listener.endpoint).map
        DeliveryFrame.ofDelivery).map .ok := by
  have hafter := hstaged.listening_run hsound hsocket incidents hopen
  have hqueue := readFrom_append_unread (server.moves incidents) stage listener.endpoint
  rw [(hstaged.run incidents).hub_eq, hstaged.hub_eq] at hqueue
  rw [reaching_eq hafter, reaching_eq hsocket, List.append_assoc, ← List.map_append, hqueue,
    List.map_append, ← List.append_assoc, Client.deliveries_append, Client.deliveries_sent]

/-- **As many writes as there are deliveries queued send them all.** -/
theorem received_of_writes (stamps : List Timestamp)
    (hopen : ¬server.hub.store.Closed listener.endpoint)
    (hlength : (server.hub.store.endpoint listener.endpoint).unread.length ≤ stamps.length) :
    (server.run (stamps.map (·, .write place))).received place = server.reaching place := by
  induction stamps generalizing server sent with
  | nil =>
    have hempty : (server.hub.store.endpoint listener.endpoint).unread = [] :=
      List.length_eq_zero_iff.1 (Nat.le_zero.1 hlength)
    change server.received place = _
    rw [reaching_eq hsocket, hempty, received, hsocket, List.map_nil, List.append_nil]
    rfl
  | cons time rest ih =>
    obtain ⟨hhub, hwritten⟩ :
        (server.step time (.write place)).hub = (server.hub.read listener.endpoint).2 ∧
          (server.step time (.write place)).socket? place = _ :=
      Staged.listening_write hsocket hopen
    have hread : (server.step time (.write place)).hub.store.endpoint listener.endpoint =
        (server.hub.store.endpoint listener.endpoint).read.2 := by
      rw [hhub]
      exact Store.endpoint_update_self _ (Store.has_of_open hopen)
    have hstill : ¬(server.step time (.write place)).hub.store.Closed listener.endpoint := by
      rw [hhub]
      exact fun hc => hopen ((Store.alike_read server.hub.store _).closed_iff.1 hc)
    have hless : ((server.step time (.write place)).hub.store.endpoint
        listener.endpoint).unread.length ≤ rest.length := by
      have hshorter := Endpoint.length_read_of_open hopen
      rw [List.length_cons] at hlength
      rw [hread]
      omega
    have hsplit := (server.hub.store.endpoint listener.endpoint).unread_read
    refine (ih hwritten hstill hless).trans ?_
    rw [reaching_eq hwritten, reaching_eq hsocket, hread, ← hsplit, List.map_append,
      List.append_assoc]
    rfl

end

end Server

end BroadcastChat
