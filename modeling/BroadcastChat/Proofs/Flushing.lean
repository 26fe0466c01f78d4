/-
# Settling is a run

When a server settles, every session and every socket does at once all that it
has to do, while in a run each turn and each write is an incident of its own.
The two come to the same: to flush a socket is to write to it until nothing is
queued for it any more, and a server that settles takes turns and writes. So
what holds after every run holds of a server that settles.

Key definitions: `Server.unsent`, `Server.writeTimes`, `Server.ByItself`.
Key theorems: `Server.flush_writeTo`, `Server.writeTimes_eq_flush`,
`Server.byItself_flushAll`, `Server.byItself_settle`.
-/
import BroadcastChat.Proofs.Elsewhere
import BroadcastChat.Proofs.Sockets

namespace BroadcastChat

/-! ### Reading one by one -/

namespace Endpoint

/-- What is read first comes before everything that is read then. -/
theorem readAll_of_delivery (endpoint : Endpoint) {delivery : Delivery}
    (h : endpoint.read.1 = .delivery delivery) :
    endpoint.readAll = (delivery :: endpoint.read.2.readAll.1, endpoint.read.2.readAll.2) := by
  obtain ⟨bound, unread, shut, dropped, waits, hpos, hle⟩ := endpoint
  cases dropped with
  | true => cases h
  | false =>
    cases unread with
    | nil =>
      rw [fst_read] at h
      dsimp only at h
      rw [if_neg Bool.false_ne_true] at h
      split at h <;> cases h
    | cons first rest =>
      cases h
      rfl

/-- If nothing is read, nothing is there to be read, and the reading says how the stream stands. -/
theorem readAll_of_none (endpoint : Endpoint) (h : endpoint.read.1.delivery? = none) :
    endpoint.readAll = ([], endpoint.read.2) ∧ endpoint.read.2.standing = endpoint.read.1 := by
  obtain ⟨bound, unread, shut, dropped, waits, hpos, hle⟩ := endpoint
  cases dropped with
  | true => exact ⟨rfl, rfl⟩
  | false =>
    cases unread with
    | nil => exact ⟨rfl, rfl⟩
    | cons first rest => cases h

theorem readAll_readAll (endpoint : Endpoint) :
    endpoint.readAll.2.readAll = ([], endpoint.readAll.2) := by
  obtain ⟨bound, unread, shut, dropped, waits, hpos, hle⟩ := endpoint
  cases dropped <;> rfl

end Endpoint

/-- A change that does nothing to an endpoint both of whose ends are gone is seen afterwards,
whether or not the endpoint was ever made. -/
theorem Store.endpoint_update_of_gone {store : Store} {id : EndpointId} {f : Endpoint → Endpoint}
    (h : f .gone = .gone) :
    (store.update id fun _ => f (store.endpoint id)).endpoint id = f (store.endpoint id) := by
  rw [endpoint_update]
  split
  · rfl
  · rename_i hhas
    rw [endpoint_of_not_has fun hmade => hhas ⟨rfl, hmade⟩, h]

namespace Hub

variable {hub : Hub} {id : EndpointId}

theorem readAll_of_delivery {delivery : Delivery} (h : (hub.read id).1 = .delivery delivery) :
    hub.readAll id =
      (delivery :: ((hub.read id).2.readAll id).1, ((hub.read id).2.readAll id).2) := by
  have hafter : (hub.read id).2.store.endpoint id = (hub.store.endpoint id).read.2 :=
    Store.endpoint_update_of_gone (f := fun endpoint => endpoint.read.2) rfl
  rw [readAll, (hub.store.endpoint id).readAll_of_delivery h, readAll, hafter]
  simp only [read, Store.update_update]

theorem readAll_of_none (h : (hub.read id).1.delivery? = none) :
    hub.readAll id = ([], hub.read id) := by
  obtain ⟨hall, hstanding⟩ := (hub.store.endpoint id).readAll_of_none h
  rw [readAll, hall]
  dsimp only
  rw [hstanding]
  rfl

theorem readAll_readAll (hub : Hub) (id : EndpointId) :
    (hub.readAll id).2.2.readAll id = ([], (hub.readAll id).2) := by
  have hafter : (hub.readAll id).2.2.store.endpoint id = (hub.store.endpoint id).readAll.2 :=
    Store.endpoint_update_of_gone (f := fun endpoint => endpoint.readAll.2) rfl
  rw [readAll, hafter, Endpoint.readAll_readAll]
  simp only [readAll, Store.update_update]

end Hub

namespace Server

variable {server : Server} {hub : Hub} {socket : Socket} {time : Timestamp}

/-! ### Writing to one socket -/

/-- What is queued for a socket that is not over. -/
def unsent (hub : Hub) (socket : Socket) : List Delivery :=
  match socket.finish, endpoint? hub socket with
  | none, some endpoint => (hub.readAll endpoint).1
  | _, _ => []

/-- Writes to a socket, so many times. -/
def writeTimes : Nat → Hub → Socket → Socket × Hub
  | 0, hub, socket => (socket, hub)
  | count + 1, hub, socket =>
    let (socket, hub) := writeTo hub socket
    writeTimes count hub socket

/-- The deliveries of an endpoint go out through a socket that is not over. -/
structure Feeds (hub : Hub) (endpoint : EndpointId) (socket : Socket) : Prop where
  finish_eq : socket.finish = none
  endpoint?_eq : endpoint? hub socket = some endpoint

namespace Feeds

variable {endpoint : EndpointId} (h : Feeds hub endpoint socket)
include h

theorem unsent_eq : unsent hub socket = (hub.readAll endpoint).1 := by
  rw [unsent, h.finish_eq, h.endpoint?_eq]

/-- A write that sends something leaves the rest of the queue to the next ones. -/
theorem writeTo_of_delivery {delivery : Delivery}
    (hdelivery : (hub.read endpoint).1 = .delivery delivery) :
    writeTo hub socket =
      ({ socket with sent := socket.sent ++ [frameText delivery] }, (hub.read endpoint).2) := by
  rw [writeTo_eq h.finish_eq h.endpoint?_eq, hdelivery, h.finish_eq]
  simp [Reading.delivery?]

/-- A write that has nothing to send does what there is to be done. -/
theorem writeTo_of_none (hnone : (hub.read endpoint).1.delivery? = none) :
    writeTo hub socket = flush hub socket := by
  have hfinish : (if (hub.read endpoint).1 = .ended ∨ (hub.read endpoint).1 = .dropped then
      some Socket.Finish.closed else none) =
        if (hub.read endpoint).1 = .pending then none else some .closed := by
    cases hreading : (hub.read endpoint).1 with
    | delivery delivery =>
      rw [hreading] at hnone
      cases hnone
    | _ => rfl
  rw [writeTo_eq h.finish_eq h.endpoint?_eq, flush_eq h.finish_eq h.endpoint?_eq,
    Hub.readAll_of_none hnone, hnone, hfinish]
  rfl

end Feeds

/-- A socket that is over, or that nobody feeds, is written nothing. -/
theorem writes_of_idle (h : ∀ endpoint, ¬Feeds hub endpoint socket) :
    unsent hub socket = [] ∧ writeTo hub socket = (socket, hub) ∧
      flush hub socket = (socket, hub) := by
  unfold unsent writeTo flush
  cases hfinish : socket.finish with
  | some finish => exact ⟨rfl, rfl, rfl⟩
  | none =>
    cases hendpoint : endpoint? hub socket with
    | none => exact ⟨rfl, rfl, rfl⟩
    | some endpoint => exact absurd ⟨hfinish, hendpoint⟩ (h endpoint)

/-- A flushed socket has nothing more to be sent, and is flushed. -/
theorem flush_flush (hub : Hub) (socket : Socket) :
    unsent (flush hub socket).2 (flush hub socket).1 = [] ∧
      flush (flush hub socket).2 (flush hub socket).1 = flush hub socket := by
  by_cases hfed : ∃ endpoint, Feeds hub endpoint socket
  · obtain ⟨endpoint, h⟩ := hfed
    rw [flush_eq h.finish_eq h.endpoint?_eq]
    by_cases hpending : (hub.readAll endpoint).2.1 = .pending
    · rw [if_pos hpending]
      have hstill : Feeds (hub.readAll endpoint).2.2 endpoint
          ⟨socket.role, socket.sent ++ (hub.readAll endpoint).1.map frameText, none⟩ :=
        ⟨rfl, h.endpoint?_eq⟩
      refine ⟨hstill.unsent_eq.trans ?_,
        (flush_eq hstill.finish_eq hstill.endpoint?_eq).trans ?_⟩
      · rw [Hub.readAll_readAll]
      · rw [Hub.readAll_readAll]
        simp [hpending]
    · rw [if_neg hpending]
      have hover : ∀ other, ¬Feeds (hub.readAll endpoint).2.2 other
          ⟨socket.role, socket.sent ++ (hub.readAll endpoint).1.map frameText, some .closed⟩ := by
        intro other hother
        cases hother.finish_eq
      obtain ⟨hunsent, -, hflush⟩ := writes_of_idle hover
      exact ⟨hunsent, hflush⟩
  · obtain ⟨hunsent, -, hflush⟩ := writes_of_idle (not_exists.1 hfed)
    rw [hflush]
    exact ⟨hunsent, hflush⟩

/-- Either a write is all that there was to do, or it sends the first delivery and leaves the rest
to be done. -/
theorem writeTo_flush_cases (hub : Hub) (socket : Socket) :
    (unsent hub socket = [] ∧ writeTo hub socket = flush hub socket) ∨
    ∃ delivery,
      unsent hub socket = delivery :: unsent (writeTo hub socket).2 (writeTo hub socket).1 ∧
      flush (writeTo hub socket).2 (writeTo hub socket).1 = flush hub socket := by
  by_cases hfed : ∃ endpoint, Feeds hub endpoint socket
  · obtain ⟨endpoint, h⟩ := hfed
    cases hreading : (hub.read endpoint).1 with
    | delivery delivery =>
      have hstill : Feeds (hub.read endpoint).2 endpoint
          { socket with sent := socket.sent ++ [frameText delivery] } :=
        ⟨h.finish_eq, h.endpoint?_eq⟩
      refine .inr ⟨delivery, ?_⟩
      rw [h.writeTo_of_delivery hreading, h.unsent_eq, flush_eq h.finish_eq h.endpoint?_eq,
        Hub.readAll_of_delivery hreading]
      refine ⟨?_, (flush_eq hstill.finish_eq hstill.endpoint?_eq).trans ?_⟩
      · rw [hstill.unsent_eq]
      · simp
    | _ =>
      have hnone : (hub.read endpoint).1.delivery? = none := by rw [hreading]; rfl
      refine .inl ⟨?_, h.writeTo_of_none hnone⟩
      rw [h.unsent_eq, Hub.readAll_of_none hnone]
  · obtain ⟨hunsent, hwrite, hflush⟩ := writes_of_idle (not_exists.1 hfed)
    exact .inl ⟨hunsent, hwrite.trans hflush.symm⟩

/-- **What is left to flush after a write is what was to be flushed.** -/
theorem flush_writeTo (hub : Hub) (socket : Socket) :
    flush (writeTo hub socket).2 (writeTo hub socket).1 = flush hub socket := by
  rcases writeTo_flush_cases hub socket with ⟨-, hwrite⟩ | ⟨_, -, hflush⟩
  · rw [hwrite]
    exact (flush_flush hub socket).2
  · exact hflush

/-- **To flush a socket is to write to it until nothing is queued.** One write more closes it if
nothing more will come, and further writes do nothing. -/
theorem writeTimes_eq_flush {count : Nat} (h : (unsent hub socket).length < count) :
    writeTimes count hub socket = flush hub socket := by
  induction count generalizing hub socket with
  | zero => exact absurd h (Nat.not_lt_zero _)
  | succ count ih =>
    rw [writeTimes]
    dsimp only
    rcases writeTo_flush_cases hub socket with ⟨-, hwrite⟩ | ⟨delivery, hunsent, hflush⟩
    · rw [hwrite]
      cases count with
      | zero => rfl
      | succ count =>
        obtain ⟨hnil, hflush⟩ := flush_flush hub socket
        rw [ih (by rw [hnil]; exact Nat.succ_pos count), hflush]
    · rw [hunsent, List.length_cons] at h
      rw [ih (Nat.lt_of_succ_lt_succ h), hflush]

/-! ### What a server does by itself -/

/-- Whether an incident is something that the server does of its own accord. -/
def Incident.isOwn : Incident → Bool
  | .turn _ | .write _ => true
  | _ => false

/-- The server can get there at a time without anything that comes from outside. -/
def ByItself (time : Timestamp) (server later : Server) : Prop :=
  ∃ incidents : List (Timestamp × Incident),
    (∀ entry ∈ incidents, entry.1 = time ∧ entry.2.isOwn = true) ∧ server.run incidents = later

namespace ByItself

theorem refl (time : Timestamp) (server : Server) : server.ByItself time server :=
  ⟨[], fun _ hm => absurd hm List.not_mem_nil, rfl⟩

theorem trans {later last : Server} (h : ByItself time server later)
    (h' : ByItself time later last) : ByItself time server last := by
  obtain ⟨incidents, hown, hrun⟩ := h
  obtain ⟨more, hmore, hlast⟩ := h'
  refine ⟨incidents ++ more, fun entry hm => ?_, ?_⟩
  · rcases List.mem_append.1 hm with hm | hm
    · exact hown entry hm
    · exact hmore entry hm
  · rw [run_append, hrun, hlast]

theorem of_step {incident : Incident} (h : incident.isOwn = true) :
    ByItself time server (server.step time incident) :=
  ⟨[(time, incident)], fun _ hm => List.mem_singleton.1 hm ▸ ⟨rfl, h⟩, rfl⟩

end ByItself

theorem byItself_writeTimes (time : Timestamp) {id : SocketId}
    (h : server.socket? id = some socket) (count : Nat) :
    ByItself time server (({ server with hub := (writeTimes count server.hub socket).2 } :
      Server).put id (writeTimes count server.hub socket).1) := by
  induction count generalizing server socket with
  | zero =>
    rw [writeTimes, put_self h]
    exact .refl time server
  | succ count ih =>
    have hwrite : server.step time (.write id) =
        ({ server with hub := (writeTo server.hub socket).2 } : Server).put id
          (writeTo server.hub socket).1 := by
      rw [step, write, h]
    have hfirst : ByItself time server (server.step time (.write id)) := .of_step rfl
    have hrest := hfirst.trans (ih (socket?_write h))
    rw [hwrite] at hrest
    simp only [put, Array.setIfInBounds_setIfInBounds] at hrest
    exact hrest

/-- Sockets that are flushed one after the other are written to one after the other. -/
theorem byItself_flushAll (time : Timestamp) (server : Server) (front rest : List Socket)
    (h : server.sockets.toList = front ++ rest) :
    ByItself time server
      ⟨(flushAll server.hub rest).2, (front ++ (flushAll server.hub rest).1).toArray⟩ := by
  induction rest generalizing server front with
  | nil =>
    rw [flushAll, ← h]
    exact .refl time server
  | cons socket rest ih =>
    have hsocket : server.socket? ⟨front.length⟩ = some socket := by
      rw [socket?, ← Array.getElem?_toList, h, List.getElem?_append_right (Nat.le_refl _),
        Nat.sub_self]
      rfl
    have hfirst := byItself_writeTimes time hsocket ((unsent server.hub socket).length + 1)
    rw [writeTimes_eq_flush (Nat.lt_succ_self _)] at hfirst
    have hsockets : (({ server with hub := (flush server.hub socket).2 } : Server).put
        ⟨front.length⟩ (flush server.hub socket).1).sockets.toList =
          (front ++ [(flush server.hub socket).1]) ++ rest := by
      rw [put, Array.toList_setIfInBounds, h, List.append_assoc]
      simp
    have hrest := ih _ _ hsockets
    rw [List.append_assoc] at hrest
    exact hfirst.trans hrest

theorem byItself_settleWithin (time : Timestamp) (server : Server) (count : Nat) :
    ByItself time server { server with hub := server.hub.settleWithin time count } := by
  induction count generalizing server with
  | zero => exact .refl time server
  | succ count ih =>
    unfold Hub.settleWithin
    cases hfirst : server.hub.turnOfFirst time with
    | none => exact .refl time server
    | some after =>
      obtain ⟨id, -, hturn⟩ := List.exists_of_findSome?_eq_some hfirst
      have hstep : server.step time (.turn id) = { server with hub := after } := by
        rw [step, hturn, Option.getD_some]
      have hturned : ByItself time server (server.step time (.turn id)) := .of_step rfl
      rw [hstep] at hturned
      exact hturned.trans (ih _)

/-- **A server that settles runs**: its sessions take turns, and it writes to its sockets. -/
theorem byItself_settle (time : Timestamp) (server : Server) :
    ByItself time server (server.settle time) :=
  (byItself_settleWithin time server server.hub.work).trans
    (byItself_flushAll time _ [] server.sockets.toList rfl)

end Server

end BroadcastChat
