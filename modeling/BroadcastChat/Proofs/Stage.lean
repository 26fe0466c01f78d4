/-
# Runs of a hub

Everything that can happen to a hub from outside is a `Move`: somebody
submits, opens a listener or lets go of one, opens a session, something
arrives from a client or its stream ends, a session takes a turn, a stream is
read or dropped, the hub is stopped. A stage is a hub with the listeners that
nobody has let go of yet, and a run is any list of moves, each at its time,
from a new hub. A move that is not possible changes nothing.

The books of the hub are right at every stage of a run (`Stage.sound_run`):
between moves, each session and each listener has its one note, and nobody
owes anything.

Key definitions: `Stage`, `Move`, `Stage.step`, `Stage.trace`, `Moment`,
`history`, `Stage.notes`, `Stage.Sound`.
Key theorems: `Stage.Sound.step`, `Stage.Sound.run`,
`Stage.Sound.closed_or_binds`.
-/
import Mathlib.Data.List.Perm.Basic
import BroadcastChat.Proofs.Bystanders
import BroadcastChat.Proofs.Programs

namespace BroadcastChat

/-- Reads once from an endpoint's stream. -/
def Hub.read (hub : Hub) (id : EndpointId) : Reading × Hub :=
  let (reading, after) := (hub.store.endpoint id).read
  (reading, { hub with store := hub.store.update id fun _ => after })

/-- A hub and the listeners on it that nobody has let go of. -/
structure Stage where
  hub : Hub
  listeners : List Listener

/-- What can happen to a hub. -/
inductive Move where
  | submit (message : Message)
  | openListener (name : Name)
  | letGo (listener : Listener)
  | openSession
  | arrive (id : SessionId) (arrival : Arrival)
  | endInput (id : SessionId)
  | turn (id : SessionId)
  | read (endpoint : EndpointId)
  /-- The client of a session drops its outbound stream. -/
  | dropOutbound (id : SessionId)
  | shutDown
  deriving DecidableEq

namespace Stage

/-- A new hub. -/
def new (settings : HubSettings) : Stage := ⟨.new settings, []⟩

/-- The stage after a move. -/
def step (time : Timestamp) (stage : Stage) : Move → Stage
  | .submit message => { stage with hub := (stage.hub.submit time message).2 }
  | .openListener name =>
    let (listener, hub) := stage.hub.openListener time name
    ⟨hub, listener :: stage.listeners⟩
  | .letGo listener =>
    if listener ∈ stage.listeners then
      ⟨stage.hub.letGo time listener, stage.listeners.erase listener⟩
    else stage
  | .openSession => { stage with hub := (stage.hub.openSession time).2 }
  | .arrive id arrival => { stage with hub := (stage.hub.send id arrival).2 }
  | .endInput id => { stage with hub := (stage.hub.endInput id).2 }
  | .turn id => { stage with hub := (stage.hub.turn time id).getD stage.hub }
  | .read endpoint => { stage with hub := (stage.hub.read endpoint).2 }
  | .dropOutbound id =>
    match stage.hub.session? id with
    | none => stage
    | some session => { stage with hub := (stage.hub.dropStream time session.endpoint).2 }
  | .shutDown => { stage with hub := stage.hub.shutDown time }

/-- What is done to the hub's store in a move. -/
def trace (time : Timestamp) (stage : Stage) : Move → List Event
  | .submit message => (Program.submit message).trace time stage.hub.store
  | .openListener name =>
    (Program.openListener stage.hub.settings.capacity name).trace time stage.hub.store
  | .letGo listener =>
    if listener ∈ stage.listeners then (Program.letGo listener).trace time stage.hub.store else []
  | .openSession =>
    (Session.start stage.hub.settings.capacity stage.hub.store.newInbound.1).trace time
      stage.hub.store.newInbound.2
  | .turn id =>
    match stage.hub.turn time id, stage.hub.session? id with
    | some _, some session =>
      (session.turn stage.hub.settings.policy).trace time stage.hub.store
    | _, _ => []
  | .dropOutbound id =>
    match stage.hub.session? id with
    | none => []
    | some session => (Program.drop session.endpoint).trace time stage.hub.store
  | .shutDown => Program.shutDown.trace time stage.hub.store
  | .arrive _ _ | .endInput _ | .read _ => []

/-- The stage at the end of a run. -/
def run (stage : Stage) (moves : List (Timestamp × Move)) : Stage :=
  moves.foldl (fun stage move => stage.step move.1 move.2) stage

end Stage

/-- A move at its time, and the stage before it. -/
structure Moment where
  stage : Stage
  time : Timestamp
  move : Move

namespace Moment

/-- The stage after the move. -/
def after (moment : Moment) : Stage := moment.stage.step moment.time moment.move

/-- What is done to the hub's store in the move. -/
def trace (moment : Moment) : List Event := moment.stage.trace moment.time moment.move

end Moment

/-- The moments of a run, in order. -/
def history : List (Timestamp × Move) → Stage → List Moment
  | [], _ => []
  | (time, move) :: rest, stage => ⟨stage, time, move⟩ :: history rest (stage.step time move)

/-- Everything that was done to the hub's store in these moments. -/
def logOf (moments : List Moment) : List Event := moments.flatMap Moment.trace

@[simp] theorem logOf_nil : logOf [] = [] := rfl

@[simp] theorem logOf_cons (moment : Moment) (rest : List Moment) :
    logOf (moment :: rest) = moment.trace ++ logOf rest :=
  List.flatMap_cons

/-! ### What leaves the books alone -/

/-- Two stores that differ only in what is unread, waited for or arrived. -/
structure Store.Alike (store other : Store) : Prop where
  registry_eq : other.registry = store.registry
  stopped_eq : other.stopped = store.stopped
  has_iff : ∀ e, other.Has e ↔ store.Has e
  shut_eq : ∀ e, (other.endpoint e).shut = (store.endpoint e).shut
  dropped_eq : ∀ e, (other.endpoint e).dropped = (store.endpoint e).dropped

section

variable {store other : Store} {log : List Event} {notes : Multiset Note}

theorem Store.alike_inbounds (store : Store) (inbounds : Array Inbound) :
    store.Alike { store with inbounds } :=
  ⟨rfl, rfl, fun _ => Iff.rfl, fun _ => rfl, fun _ => rfl⟩

theorem Store.Alike.refl (store : Store) : store.Alike store :=
  store.alike_inbounds store.inbounds

theorem Store.alike_read (store : Store) (id : EndpointId) :
    store.Alike (store.update id fun _ => (store.endpoint id).read.2) where
  registry_eq := rfl
  stopped_eq := rfl
  has_iff _ := Store.has_update
  shut_eq e := Store.update_congr Endpoint.shut (Endpoint.shut_read _) e
  dropped_eq e := Store.update_congr Endpoint.dropped (Endpoint.dropped_read _) e

namespace Store.Alike

variable (h : store.Alike other)
include h

theorem binds_iff {n : Name} {e : EndpointId} : other.Binds n e ↔ store.Binds n e := by
  rw [Store.Binds, h.registry_eq, Store.Binds]

theorem closed_iff {e : EndpointId} : other.Closed e ↔ store.Closed e := by
  rw [Store.Closed, Endpoint.isClosed, h.shut_eq, h.dropped_eq, Store.Closed, Endpoint.isClosed]

theorem sound_iff {note : Note} : note.Sound other log ↔ note.Sound store log := by
  cases note <;> simp only [Note.Sound, h.has_iff, h.shut_eq, h.binds_iff, h.closed_iff,
    h.stopped_eq]

end Store.Alike

theorem Books.alike (h : Books store log notes) (ha : store.Alike other) :
    Books other log notes where
  sound note hm := ha.sound_iff.2 (h.sound note hm)
  owned_nodup := h.owned_nodup
  registered_nodup := h.registered_nodup
  has_registered hr := (ha.has_iff _).2 (h.has_registered hr)
  last_of_binds hb := h.last_of_binds (ha.binds_iff.1 hb)
  held_of_binds hb := h.held_of_binds (ha.binds_iff.1 hb)
  shut_of_binds hb := by
    rw [ha.shut_eq]
    exact h.shut_of_binds (ha.binds_iff.1 hb)
  accounted hh hc := by
    rcases h.accounted ((ha.has_iff _).1 hh) (fun hc' => hc (ha.closed_iff.2 hc')) with
      ⟨n, hb⟩ | hm
    · exact .inl ⟨n, ha.binds_iff.2 hb⟩
    · exact .inr hm
  stopped_of_swept hs := by
    rw [ha.stopped_eq]
    exact h.stopped_of_swept hs
  swept_of_stopped hs := h.swept_of_stopped (ha.stopped_eq ▸ hs)

end

/-! ### The books at every stage -/

namespace Stage

/-- What everybody notes between moves. -/
def notes (stage : Stage) : Multiset Note :=
  ↑(stage.hub.sessions.toList.map Session.note) + ↑(stage.listeners.map Listener.note)

/-- The books are right, and no session is in the middle of its end. -/
structure Sound (stage : Stage) (log : List Event) : Prop where
  books : Books stage.hub.store log stage.notes
  rests : ∀ session ∈ stage.hub.sessions.toList, session.Rests

theorem sound_new (settings : HubSettings) : (new settings).Sound [] where
  books := books_empty
  rests _ hm := by cases hm

variable {stage : Stage} {time : Timestamp} {log : List Event}

theorem mem_sessions {id : SessionId} {session : Session}
    (h : stage.hub.session? id = some session) : session ∈ stage.hub.sessions.toList := by
  rw [Array.mem_toList_iff]
  exact Array.mem_of_getElem? h

/-- The notes of one session beside those of everybody else. -/
theorem exists_notes_of_session {id : SessionId} {session : Session}
    (h : stage.hub.session? id = some session) :
    ∃ rest, stage.notes = session.note ::ₘ rest ∧
      ∀ hub : Hub, ∀ after, hub.sessions = stage.hub.sessions.setIfInBounds id.index after →
        ({ stage with hub } : Stage).notes = after.note ::ₘ rest := by
  have hget : stage.hub.sessions.toList[id.index]? = some session := by
    rw [Array.getElem?_toList]
    exact h
  obtain ⟨hlt, hget⟩ := List.getElem?_eq_some_iff.1 hget
  refine ⟨↑((stage.hub.sessions.toList.eraseIdx id.index).map Session.note) +
    ↑(stage.listeners.map Listener.note), ?_, ?_⟩
  · have hperm := (List.getElem_cons_eraseIdx_perm hlt).map Session.note
    rw [hget, List.map_cons] at hperm
    rw [notes, ← Multiset.coe_eq_coe.2 hperm, ← Multiset.cons_coe, Multiset.cons_add]
  · intro hub after hset
    have hperm := (List.set_perm_cons_eraseIdx hlt after).map Session.note
    rw [List.map_cons] at hperm
    rw [notes, hset, Array.toList_setIfInBounds, Multiset.coe_eq_coe.2 hperm,
      ← Multiset.cons_coe, Multiset.cons_add]

theorem exists_notes_of_listener {listener : Listener} (h : listener ∈ stage.listeners) :
    ∃ rest, stage.notes = listener.note ::ₘ rest ∧
      ∀ hub : Hub, hub.sessions = stage.hub.sessions →
        (⟨hub, stage.listeners.erase listener⟩ : Stage).notes = rest := by
  refine ⟨↑(stage.hub.sessions.toList.map Session.note) +
    ↑((stage.listeners.erase listener).map Listener.note), ?_, ?_⟩
  · have hperm := (List.perm_cons_erase h).map Listener.note
    rw [List.map_cons] at hperm
    rw [notes, Multiset.coe_eq_coe.2 hperm, ← Multiset.cons_coe, Multiset.add_cons]
  · intro hub hsame
    rw [notes, hsame]

theorem alike_send (hub : Hub) (id : SessionId) (arrival : Arrival) :
    hub.store.Alike (hub.send id arrival).2.store := by
  unfold Hub.send
  split
  · exact .refl _
  · split
    · split
      · exact .refl _
      · exact Store.alike_inbounds _ _
    · exact .refl _

/-- What arrives from clients changes no endpoint. -/
theorem endpoint_send (hub : Hub) (id : SessionId) (arrival : Arrival) (e : EndpointId) :
    (hub.send id arrival).2.store.endpoint e = hub.store.endpoint e := by
  unfold Hub.send
  split
  · rfl
  · split
    · split <;> rfl
    · rfl

theorem endpoint_endInput (hub : Hub) (id : SessionId) (e : EndpointId) :
    (hub.endInput id).2.store.endpoint e = hub.store.endpoint e := by
  unfold Hub.endInput
  split <;> rfl

theorem sessions_send (hub : Hub) (id : SessionId) (arrival : Arrival) :
    (hub.send id arrival).2.sessions = hub.sessions := by
  unfold Hub.send
  split
  · rfl
  · split
    · split <;> rfl
    · rfl

theorem alike_endInput (hub : Hub) (id : SessionId) :
    hub.store.Alike (hub.endInput id).2.store := by
  unfold Hub.endInput
  split
  · exact .refl _
  · exact Store.alike_inbounds _ _

theorem sessions_endInput (hub : Hub) (id : SessionId) :
    (hub.endInput id).2.sessions = hub.sessions := by
  unfold Hub.endInput
  split <;> rfl

/-- A turn that is possible is a run of the session's program. -/
theorem turn_eq_some {hub after : Hub} {id : SessionId} (h : hub.turn time id = some after) :
    ∃ session turned, hub.session? id = some session ∧ session.isOver = false ∧
      ((session.turn hub.settings.policy).run time hub.store).1 = some turned ∧
      after = { hub with
        store := ((session.turn hub.settings.policy).run time hub.store).2
        sessions := hub.sessions.setIfInBounds id.index turned } := by
  unfold Hub.turn at h
  split at h
  · cases h
  · rename_i session hsession
    split at h
    · cases h
    · rename_i hover
      split at h
      · cases h
      · rename_i turned store hrun
        cases h
        refine ⟨session, turned, hsession, by simpa using hover, ?_, ?_⟩
        · rw [hrun]
        · rw [hrun]

namespace Sound

variable (h : stage.Sound log)
include h

/-- What a program that follows the rules leaves behind. -/
theorem books_run (time : Timestamp) {α : Type} {ends : α → Multiset Note → Prop} {p : Program α}
    {own rest : Multiset Note} (hn : stage.notes = own + rest) (hk : p.Keeps ends own) :
    ∃ own', ends (p.run time stage.hub.store).1 own' ∧ Books (p.run time stage.hub.store).2
      (log ++ p.trace time stage.hub.store) (own' + rest) := by
  have hbooks := h.books
  rw [hn] at hbooks
  exact hbooks.run time hk

theorem step_submit (message : Message) :
    (stage.step time (.submit message)).Sound
      (log ++ stage.trace time (.submit message)) where
  rests := h.rests
  books := by
    have hbooks : Books stage.hub.store log ({.asking} + stage.notes) := by
      rw [Multiset.singleton_add]
      exact h.books.add rfl trivial
    obtain ⟨own', rfl, hafter⟩ := hbooks.run time (Program.keeps_submit message)
    rw [Multiset.cons_add, zero_add] at hafter
    exact hafter.forget trivial

theorem step_openListener (name : Name) :
    (stage.step time (.openListener name)).Sound
      (log ++ stage.trace time (.openListener name)) where
  rests := h.rests
  books := by
    obtain ⟨own', ⟨idle, hi, rfl⟩, hafter⟩ := h.books_run time (zero_add _).symm
      (Program.keeps_openListener stage.hub.settings.capacity name)
    rw [add_assoc, Multiset.cons_add, zero_add] at hafter
    have hbooks := hafter.forgetAll hi
    rw [notes, ← Multiset.add_cons, Multiset.cons_coe] at hbooks
    exact hbooks

theorem step_letGo (listener : Listener) :
    (stage.step time (.letGo listener)).Sound (log ++ stage.trace time (.letGo listener)) := by
  by_cases hl : listener ∈ stage.listeners
  · obtain ⟨rest, hn, hrest⟩ := exists_notes_of_listener hl
    have hbooks : Books stage.hub.store log (.parting ::ₘ listener.note ::ₘ 0 + rest) := by
      rw [Multiset.cons_add, Multiset.cons_add, zero_add, ← hn]
      exact h.books.add rfl trivial
    obtain ⟨own', ⟨idle, hi, rfl⟩, hafter⟩ := hbooks.run time
      (Program.keeps_letGo listener (.inl rfl))
    rw [add_zero] at hafter
    have hdone := hafter.forgetAll hi
    simp only [step, trace, if_pos hl]
    refine ⟨?_, h.rests⟩
    rw [hrest (stage.hub.letGo time listener) rfl]
    exact hdone
  · simp only [step, trace, if_neg hl, List.append_nil]
    exact h

theorem step_openSession :
    (stage.step time .openSession).Sound (log ++ stage.trace time .openSession) := by
  have hbooks : Books stage.hub.store.newInbound.2 log (0 + stage.notes) := by
    rw [zero_add]
    exact h.books.alike (Store.alike_inbounds _ _)
  obtain ⟨own', ⟨rfl, hstate, _⟩, hafter⟩ := hbooks.run time
    (Session.keeps_start stage.hub.settings.capacity stage.hub.store.newInbound.1)
  refine ⟨?_, ?_⟩
  · rw [Multiset.cons_add, zero_add, notes, ← Multiset.cons_add, Multiset.cons_coe] at hafter
    have hsessions : (stage.step time .openSession).hub.sessions = stage.hub.sessions.push
      ((Session.start stage.hub.settings.capacity stage.hub.store.newInbound.1).run time
        stage.hub.store.newInbound.2).1 := rfl
    rw [notes, hsessions, Array.toList_push, List.map_append, List.map_singleton,
      Multiset.coe_eq_coe.2 List.perm_append_comm, List.singleton_append]
    exact hafter
  · intro session hm
    have hpush : (stage.step time .openSession).hub.sessions.toList = stage.hub.sessions.toList ++
        [((Session.start stage.hub.settings.capacity stage.hub.store.newInbound.1).run time
          stage.hub.store.newInbound.2).1] := Array.toList_push
    rw [hpush, List.mem_append, List.mem_singleton] at hm
    rcases hm with hm | rfl
    · exact h.rests session hm
    · intro name outcome heq
      rw [hstate] at heq
      cases heq

theorem step_turn (id : SessionId) :
    (stage.step time (.turn id)).Sound (log ++ stage.trace time (.turn id)) := by
  cases hturn : stage.hub.turn time id with
  | none =>
    simp only [step, trace, hturn, Option.getD_none, List.append_nil]
    exact h
  | some after =>
    obtain ⟨session, turned, hsession, hover, hrun, rfl⟩ := turn_eq_some hturn
    simp only [step, trace, hturn, hsession, Option.getD_some]
    obtain ⟨rest, hn, hrest⟩ := exists_notes_of_session hsession
    have hmem := mem_sessions hsession
    have hkeeps : (session.turn stage.hub.settings.policy).Keeps (session.Turned 0)
        (session.note ::ₘ 0) :=
      session.keeps_turn stage.hub.settings.policy (h.rests session hmem) hover
    obtain ⟨own', hends, hafter⟩ := h.books_run time
      (by rw [hn, Multiset.cons_add, zero_add]) hkeeps
    rw [hrun] at hends
    obtain ⟨hrests, _, _, idle, hi, rfl⟩ := hends
    refine ⟨?_, ?_⟩
    · rw [add_assoc, Multiset.cons_add, zero_add] at hafter
      rw [hrest _ _ rfl]
      exact hafter.forgetAll hi
    · intro other hm
      rw [Array.toList_setIfInBounds] at hm
      rcases List.mem_or_eq_of_mem_set hm with hm | rfl
      · exact h.rests other hm
      · exact hrests

theorem step_dropOutbound (id : SessionId) :
    (stage.step time (.dropOutbound id)).Sound
      (log ++ stage.trace time (.dropOutbound id)) := by
  cases hsession : stage.hub.session? id with
  | none =>
    simp only [step, trace, hsession, List.append_nil]
    exact h
  | some session =>
    simp only [step, trace, hsession]
    have hquiet : (Action.drop session.endpoint).Quiet := trivial
    exact ⟨h.books.quiet hquiet, h.rests⟩

theorem step_shutDown :
    (stage.step time .shutDown).Sound (log ++ stage.trace time .shutDown) where
  rests := h.rests
  books := by
    obtain ⟨own', rfl, hafter⟩ := h.books_run time (zero_add _).symm
      Program.keeps_shutDown
    rw [Multiset.cons_add, zero_add] at hafter
    exact hafter.forget trivial

/-- A move that only changes what has arrived or what is unread. -/
theorem of_alike {other : Hub} (ha : stage.hub.store.Alike other.store)
    (hs : other.sessions = stage.hub.sessions) :
    ({ stage with hub := other } : Stage).Sound (log ++ []) := by
  rw [List.append_nil]
  refine ⟨?_, ?_⟩
  · rw [notes, hs]
    exact h.books.alike ha
  · rw [hs]
    exact h.rests

/-- **The books stay right in every move.** -/
theorem step (time : Timestamp) (move : Move) :
    (stage.step time move).Sound (log ++ stage.trace time move) := by
  cases move with
  | submit message => exact h.step_submit message
  | openListener name => exact h.step_openListener name
  | letGo listener => exact h.step_letGo listener
  | openSession => exact h.step_openSession
  | turn id => exact h.step_turn id
  | dropOutbound id => exact h.step_dropOutbound id
  | shutDown => exact h.step_shutDown
  | read endpoint => exact h.of_alike (Store.alike_read _ _) rfl
  | arrive id arrival => exact h.of_alike (alike_send _ _ _) (sessions_send _ _ _)
  | endInput id => exact h.of_alike (alike_endInput _ _) (sessions_endInput _ _)

omit h in
/-- **The books are right at every stage of a run.** -/
theorem run (moves : List (Timestamp × Move)) (h : stage.Sound log) :
    (stage.run moves).Sound (log ++ logOf (history moves stage)) := by
  induction moves generalizing stage log with
  | nil =>
    rw [history, logOf_nil, List.append_nil]
    exact h
  | cons move rest ih =>
    rw [history, logOf_cons, ← List.append_assoc]
    exact ih (h.step move.1 move.2)

end Sound

theorem sound_run (settings : HubSettings) (moves : List (Timestamp × Move)) :
    ((new settings).run moves).Sound (logOf (history moves (new settings))) :=
  (sound_new settings).run moves

end Stage

/-! ### What rests between moves -/

namespace Stage

variable {stage : Stage} {log : List Event} {n : Name} {e : EndpointId}

theorem mem_notes {note : Note} : note ∈ stage.notes ↔
    (∃ session ∈ stage.hub.sessions.toList, session.note = note) ∨
      ∃ listener ∈ stage.listeners, listener.note = note := by
  simp only [notes, Multiset.mem_add, Multiset.mem_coe, List.mem_map]

/-- Between moves nobody owes anything. -/
theorem owned_of_mem_notes {note : Note} (h : note ∈ stage.notes) : note.owned?.isSome := by
  rcases mem_notes.1 h with ⟨session, _, rfl⟩ | ⟨listener, _, rfl⟩
  · rw [session.owned_note]
    rfl
  · rw [listener.owned_note]
    rfl

theorem Sound.closed_or_binds (h : stage.Sound log) (hr : Registered log n e) :
    stage.hub.store.Closed e ∨ stage.hub.store.Binds n e :=
  h.books.closed_or_binds (fun hm => by cases owned_of_mem_notes hm) hr

theorem Sound.not_binds_of_over (h : stage.Sound log) {session : Session}
    (hm : session ∈ stage.hub.sessions.toList) (hover : session.isOver = true) (n : Name) :
    ¬stage.hub.store.Binds n session.endpoint := by
  have hnote : Note.retired session.endpoint ∈ stage.notes := by
    refine mem_notes.2 (.inl ⟨session, hm, ?_⟩)
    unfold Session.isOver at hover
    cases hs : session.state with
    | closed outcome => rw [Session.note, hs]
    | _ =>
      rw [hs] at hover
      cases hover
  exact (h.books.sound _ hnote).2 n

theorem Sound.endpoint_ne_of_awaiting (h : stage.Sound log) {session : Session}
    (hm : session ∈ stage.hub.sessions.toList) (hs : session.state = .awaitingHello)
    (hr : Registered log n e) : session.endpoint ≠ e := by
  rintro rfl
  have hnote : Note.made session.endpoint ∈ stage.notes := by
    refine mem_notes.2 (.inl ⟨session, hm, ?_⟩)
    rw [Session.note, hs]
  exact (h.books.sound _ hnote).2.2 n hr

end Stage

/-! ### Names for samples -/

namespace Sample

def alice : Name := ⟨"alice", by decide, by decide⟩

def bob : Name := ⟨"bob", by decide, by decide⟩

end Sample

end BroadcastChat
