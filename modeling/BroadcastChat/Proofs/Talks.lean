/-
# A client that talks

A client that has a socket to chat sends frames and then closes, while anything
else may happen on the server. Until it has closed, its session attends to what
comes in (`Server.Talks`): each incident either puts the message of one more
frame on the session's stream or has the session say what is next there, or
changes nothing for it. So in a run at whose end the session has nothing left to
do it has said what the client has sent (`Server.Talks.run`), and it comes to
that end in finitely many turns (`Server.Performs.idle_of_turns`).

Key definitions: `Server.heardOver`, `Server.Performs`, `Server.Talks`.
Key theorems: `Server.Performs.concerns_ne`, `Server.Performs.idle_of_turns`,
`Server.Talks.step_quiet`, `Server.Talks.step_text`, `Server.Talks.step_close`,
`Server.Talks.run`, `Server.Performs.talks_new`.
-/
import BroadcastChat.Proofs.Entry
import BroadcastChat.Proofs.Sockets

namespace BroadcastChat

theorem Stage.settings_run (moves : List (Timestamp × Move)) (stage : Stage) :
    (stage.run moves).hub.settings = stage.hub.settings :=
  invariant_run (motive := fun later => later.hub.settings = stage.hub.settings)
    (fun later time move h => (settings_step later time move).trans h) moves rfl

namespace Server

open Incoming (message?)

variable {server : Server} {stage : Stage} {time : Timestamp} {place : SocketId} {socket : Socket}
  {id : SessionId} {session : Session} {pending : List Message} {incident : Incident}

/-- What comes in over a socket in these incidents. -/
def heardOver (place : SocketId) (incidents : List (Timestamp × Incident)) : List Incoming :=
  incidents.filterMap fun incident => incident.2.heardOn? place

theorem heardOver_of_none (h : incident.heardOn? place = none) (time : Timestamp)
    (rest : List (Timestamp × Incident)) :
    heardOver place ((time, incident) :: rest) = heardOver place rest :=
  List.filterMap_cons_none h

theorem heardOver_of_some {incoming : Incoming} (h : incident.heardOn? place = some incoming)
    (time : Timestamp) (rest : List (Timestamp × Incident)) :
    heardOver place ((time, incident) :: rest) = incoming :: heardOver place rest :=
  List.filterMap_cons_some h

/-- A server that runs, and the stage on which its hub does. -/
structure Performs (server : Server) (stage : Stage) : Prop where
  staged : server.Staged stage
  sound : ∃ log, stage.Sound log
  streams : stage.Streams

theorem Performs.run (h : server.Performs stage) (incidents : List (Timestamp × Incident)) :
    (server.run incidents).Performs (stage.run (server.moves incidents)) := by
  obtain ⟨log, hsound⟩ := h.sound
  exact ⟨h.staged.run incidents, ⟨_, hsound.run _⟩, Stage.streams_run _ h.streams⟩

theorem Performs.step (h : server.Performs stage) (time : Timestamp) (incident : Incident) :
    (server.step time incident).Performs
      (stage.run ((server.move? incident).toList.map (time, ·))) := by
  obtain ⟨log, hsound⟩ := h.sound
  exact ⟨h.staged.step incident, ⟨_, hsound.run _⟩, Stage.streams_run _ h.streams⟩

theorem performs_run (settings : HubSettings) (incidents : List (Timestamp × Incident)) :
    ((new settings).run incidents).Performs
      ((Stage.new settings).run ((new settings).moves incidents)) :=
  Performs.run ⟨staged_new settings, ⟨_, Stage.sound_new settings⟩, Stage.streams_new settings⟩ _

/-- **Nothing concerns the session of a client from which nothing comes in.** -/
theorem Performs.concerns_ne (incidents : List (Timestamp × Incident)) (h : server.Performs stage)
    (hsocket : server.socket? place = some socket) (hrole : socket.role = .chat id)
    (hheard : heardOver place incidents = []) :
    ∀ moment ∈ history (server.moves incidents) stage,
      moment.move.concerns? moment.stage.hub ≠ some id := by
  induction incidents generalizing server stage socket with
  | nil => exact fun _ hm => nomatch hm
  | cons incident rest ih =>
    obtain ⟨time, incident⟩ := incident
    have hquiet : incident.heardOn? place = none :=
      List.filterMap_eq_nil_iff.1 hheard _ List.mem_cons_self
    rw [heardOver_of_none hquiet] at hheard
    obtain ⟨after, hafter, hsame⟩ := role_step hsocket hquiet time
    intro moment hm
    rw [moves, history_append] at hm
    rcases List.mem_append.1 hm with hm | hm
    · rw [history_toList] at hm
      obtain ⟨move, hmove, rfl⟩ := List.mem_map.1 hm
      exact h.staged.concerns_ne hsocket hrole hquiet (Option.mem_toList.1 hmove)
    · exact ih (h.step time incident) hafter (hsame.trans hrole) hheard moment hm

/-! ### Turns -/

theorem idle_at {hub : Hub} (h : hub.turn time id = none) (now : Timestamp) :
    hub.turn now id = none := by
  have hturn := Hub.turn_congr (Eq.refl hub.untimed) time now id
  rw [h] at hturn
  exact Option.map_eq_none_iff.1 hturn.symm

/-- Turns of a session that has nothing to do change nothing. -/
theorem run_of_idle (h : server.hub.turn time id = none) (stamps : List Timestamp) :
    server.run (stamps.map (·, .turn id)) = server := by
  induction stamps with
  | nil => rfl
  | cons now rest ih =>
    have hstep : server.step now (.turn id) = server := by
      rw [step, idle_at h, Option.getD_none]
    change (server.step now (.turn id)).run (rest.map (·, .turn id)) = server
    rw [hstep, ih]

theorem Performs.idle_of_turns (h : server.Performs stage)
    (hsession : server.hub.session? id = some session) (stamps : List Timestamp)
    (hlength : server.hub.turnsLeft session ≤ stamps.length) (time : Timestamp) :
    (server.run (stamps.map (·, .turn id))).hub.turn time id = none := by
  induction stamps generalizing server stage session with
  | nil =>
    have hover : session.isOver = true := by
      by_contra hrunning
      rw [Hub.turnsLeft, if_neg hrunning] at hlength
      exact Nat.not_succ_le_zero _ hlength
    refine Hub.turn_of_not_heard? ?_
    change server.hub.heard? time id = none
    rw [Hub.heard?, hsession]
    exact if_pos hover
  | cons now rest ih =>
    cases hturn : server.hub.turn now id with
    | none =>
      rw [run_of_idle hturn]
      exact idle_at hturn time
    | some after =>
      have hstep : server.step now (.turn id) = { server with hub := after } := by
        rw [Server.step, hturn, Option.getD_some]
      obtain ⟨log, hsound⟩ := h.sound
      have hrests : session.Rests := by
        refine hsound.rests session ?_
        rw [h.staged.hub_eq]
        exact Array.mem_toList_iff.2 (Array.mem_of_getElem? hsession)
      obtain ⟨turned, hturned⟩ : ∃ turned, after.session? id = some turned := by
        obtain ⟨_, _, _, _, _, rfl⟩ := Stage.turn_eq_some hturn
        exact ⟨_, Hub.session?_setIfInBounds hsession⟩
      have hless := Hub.turnsLeft_turn hrests hsession hturn hturned
      have hperforms := h.step now (.turn id)
      rw [hstep] at hperforms
      change ((server.step now (.turn id)).run (rest.map (·, .turn id))).hub.turn time id = none
      rw [hstep]
      refine ih hperforms hturned ?_
      rw [List.length_cons] at hlength
      change after.turnsLeft turned ≤ rest.length
      omega

/-! ### While the client talks -/

section

variable {sent : List String} (h : server.socket? place = some ⟨.chat id, sent, none⟩)
include h

/-- A text is a message that arrives at the session, if it holds one. -/
theorem move?_receive_text (text : String) :
    server.move? (.receive place (.frame (.text text))) =
      (message? text).map fun message => .arrive id (.message message) := by
  have hclose : (Incoming.frame (.text text)).isClose = false := by simp [Incoming.isClose]
  simp [move?, h, heard?, hclose, Incoming.arrival?, Function.comp_def]

/-- A close frame is the end of the session's input. -/
theorem move?_receive_close : server.move? (.receive place (.frame .close)) =
    some (.endInput id) := by
  have hclose : (Incoming.frame .close).isClose = true := by simp [Incoming.isClose]
  simp [move?, h, heard?, hclose]

end

/-- A client has a socket to chat and has not closed it, and its session attends to what has come
in. -/
structure Talks (server : Server) (stage : Stage) (place : SocketId) (id : SessionId)
    (session : Session) (pending : List Message) : Prop where
  performs : server.Performs stage
  socket : ∃ sent, server.socket? place = some ⟨.chat id, sent, none⟩
  attends : stage.Attends id session pending true

namespace Talks

variable (h : server.Talks stage place id session pending)
include h

theorem socket_quiet (hheard : incident.heardOn? place = none)
    (hkeeps : ∀ move, server.move? incident = some move → stage.Keeps id) (time : Timestamp) :
    ∃ sent, (server.step time incident).socket? place = some ⟨.chat id, sent, none⟩ := by
  obtain ⟨sent, hsocket⟩ := h.socket
  by_cases hwrite : incident = .write place
  · subst hwrite
    have hendpoint : endpoint? server.hub ⟨.chat id, sent, none⟩ = some session.endpoint := by
      rw [← h.performs.staged.hub_eq]
      exact congrArg (Option.map (·.endpoint)) h.attends.session_eq
    have hmove : server.move? (.write place) = some (.read session.endpoint) := by
      simp [move?, hsocket, hendpoint]
    obtain ⟨-, hopen⟩ := hkeeps _ hmove session h.attends.session_eq h.attends.running
    rw [h.performs.staged.hub_eq] at hopen
    rw [socket?_write hsocket]
    rcases writeTo_cases server.hub ⟨.chat id, sent, none⟩ with
        ⟨hsame, -⟩ | ⟨endpoint, -, hread, -, hafter⟩
    · exact ⟨sent, by rw [hsame]⟩
    · cases hendpoint.symm.trans hread
      have hstill : ¬((server.hub.read session.endpoint).1 = .ended ∨
          (server.hub.read session.endpoint).1 = .dropped) := Endpoint.read_of_open hopen
      rw [hafter, if_neg hstill]
      exact ⟨_, rfl⟩
  · exact ⟨sent, socket?_step_of_other hsocket hheard hwrite⟩

/-- **An incident in which nothing comes in** has the session say what is next on its stream, or
changes nothing for it. -/
theorem step_quiet (hheard : incident.heardOn? place = none)
    (hkeeps : ∀ move, server.move? incident = some move → stage.Keeps id) (time : Timestamp) :
    ∃ session' pending',
      (server.step time incident).Talks
        (stage.run ((server.move? incident).toList.map (time, ·))) place id session' pending' ∧
      session.Takes pending session' pending' ∧
      ∀ more, session.voices stage.hub.settings.policy (pending ++ more) =
        (saidBy id (history ((server.move? incident).toList.map (time, ·)) stage)).map
            Delivery.message ++
          session'.voices stage.hub.settings.policy (pending' ++ more) := by
  have hperforms := h.performs.step time incident
  have hsocket := h.socket_quiet hheard hkeeps time
  cases hmove : server.move? incident with
  | none =>
    rw [hmove] at hperforms
    exact ⟨session, pending, ⟨hperforms, hsocket, h.attends⟩, .nothing session pending,
      fun more => rfl⟩
  | some move =>
    rw [hmove] at hperforms
    obtain ⟨log, hsound⟩ := h.performs.sound
    have hnow : stage.Keeps id := hkeeps move hmove
    have hrests : session.Rests := hsound.rests session (Stage.mem_sessions h.attends.session_eq)
    rw [history_toList]
    change ∃ session' pending',
      (server.step time incident).Talks (stage.step time move) place id session' pending' ∧
        session.Takes pending session' pending' ∧
          ∀ more, _ = (saidBy id [⟨stage, time, move⟩]).map Delivery.message ++ _
    by_cases hturn : move = .turn id
    · subst hturn
      obtain ⟨session', pending', hattends, htakes, hvoices⟩ := h.attends.turn hnow hrests time
      refine ⟨session', pending', ⟨hperforms, hsocket, hattends⟩, htakes, fun more => ?_⟩
      rw [saidBy_of_turn rfl, hvoices]
      rw [saidBy, List.filter_nil, List.filterMap_nil, List.append_nil]
    · obtain ⟨sent, hopen⟩ := h.socket
      have hother : move.concerns? stage.hub ≠ some id :=
        h.performs.staged.concerns_ne hopen rfl hheard hmove
      refine ⟨session, pending, ⟨hperforms, hsocket, ?_⟩, .nothing session pending, fun more => ?_⟩
      · exact h.attends.of_other h.performs.streams hturn hother time
      · rw [saidBy_of_other hturn]
        rfl

/-- **A text that comes in** puts its message on the session's stream, if it holds one. -/
theorem step_text (text : String) (time : Timestamp) :
    let moves := (server.move? (.receive place (.frame (.text text)))).toList.map (time, ·)
    (server.step time (.receive place (.frame (.text text)))).Talks (stage.run moves) place id
        session (pending ++ (message? text).toList) ∧
      saidBy id (history moves stage) = [] := by
  intro moves
  obtain ⟨sent, hsocket⟩ := h.socket
  have hperforms : (server.step time (.receive place (.frame (.text text)))).Performs
      (stage.run moves) := h.performs.step time _
  have hafter : (server.step time (.receive place (.frame (.text text)))).socket? place =
      some ⟨.chat id, sent, none⟩ := by
    rw [Server.step, receive_text hsocket rfl rfl, Option.getD_some]
    exact hsocket
  have hmoves : moves = (message? text).toList.map fun message =>
      (time, Move.arrive id (.message message)) := by
    change (server.move? _).toList.map _ = _
    rw [move?_receive_text hsocket]
    cases message? text <;> rfl
  clear_value moves
  subst hmoves
  cases hmessage : message? text with
  | none =>
    rw [hmessage] at hperforms
    refine ⟨⟨hperforms, ⟨sent, hafter⟩, ?_⟩, rfl⟩
    rw [Option.toList_none, List.append_nil]
    exact h.attends
  | some message =>
    rw [hmessage] at hperforms
    refine ⟨⟨hperforms, ⟨sent, hafter⟩, ?_⟩, rfl⟩
    exact h.attends.of_arrive time message

/-- **A close frame that comes in** ends the session's stream. -/
theorem step_close (time : Timestamp) :
    server.move? (.receive place (.frame .close)) = some (.endInput id) ∧
      (stage.step time (.endInput id)).Attends id session pending false ∧
      ∃ sent, (server.step time (.receive place (.frame .close))).socket? place =
        some ⟨.chat id, sent, some .closedByClient⟩ := by
  obtain ⟨sent, hsocket⟩ := h.socket
  have hclose : (Incoming.frame .close).isClose = true := by simp [Incoming.isClose]
  refine ⟨move?_receive_close hsocket, h.attends.of_endInput time, sent, ?_⟩
  · rw [Server.step, receive_eq _ hsocket rfl, Option.getD_some]
    dsimp only
    rw [hear, if_pos hclose]
    exact socket?_put_self hsocket _

end Talks

/-- **A client that sends texts and closes has its session say what they hold**: in a run at whose
end the session has nothing to do it has said the messages of all texts, and has ended. -/
theorem Talks.run {texts : List String} (incidents : List (Timestamp × Incident))
    (h : server.Talks stage place id session pending)
    (hheard : heardOver place incidents =
      texts.map (fun text => .frame (.text text)) ++ [.frame .close])
    (hkeeps : ∀ moment ∈ history (server.moves incidents) stage, moment.stage.Keeps id)
    (hrest : (stage.run (server.moves incidents)).hub.turn time id = none) :
    (saidBy id (history (server.moves incidents) stage)).map Delivery.message =
        session.voices stage.hub.settings.policy (pending ++ texts.filterMap message?) ∧
      ∃ ended, (stage.run (server.moves incidents)).hub.session? id = some ended ∧
        ended.isOver = true := by
  induction incidents generalizing server stage session pending texts with
  | nil => simp [heardOver] at hheard
  | cons incident rest ih =>
    obtain ⟨now, incident⟩ := incident
    rw [moves, history_append] at hkeeps ⊢
    rw [moves, Stage.run_append] at hrest
    rw [Stage.run_append, saidBy_append, List.map_append]
    have hkept : ∀ moment ∈ history ((server.step now incident).moves rest)
        (stage.run ((server.move? incident).toList.map (now, ·))), moment.stage.Keeps id :=
      fun moment hm => hkeeps moment (List.mem_append_right _ hm)
    cases hin : incident.heardOn? place with
    | none =>
      have hnow : ∀ move, server.move? incident = some move → stage.Keeps id := by
        intro move hmove
        refine hkeeps ⟨stage, now, move⟩ (List.mem_append_left _ ?_)
        rw [hmove, history_toList]
        exact List.mem_cons_self
      obtain ⟨session', pending', hafter, -, hvoices⟩ := h.step_quiet hin hnow now
      rw [heardOver_of_none hin] at hheard
      obtain ⟨hsaid, hlast⟩ := ih hafter hheard hkept hrest
      refine ⟨?_, hlast⟩
      rw [hsaid, hvoices, Stage.settings_run]
    | some incoming =>
      cases Incident.eq_of_heardOn? hin
      rw [heardOver_of_some hin] at hheard
      cases texts with
      | nil =>
        -- the client closes, and nothing comes in behind that
        obtain ⟨rfl, hlater⟩ := List.cons.inj hheard
        obtain ⟨hmove, hattends, sent, hsocket⟩ := h.step_close now
        have hperforms := h.performs.step now (.receive place (.frame .close))
        rw [hmove] at hkept hrest hperforms ⊢
        obtain ⟨log, hsound⟩ := hperforms.sound
        have hother := hperforms.concerns_ne rest hsocket rfl hlater
        obtain ⟨hsaid, hlast⟩ :=
          hattends.concludes _ hsound hperforms.streams hother hkept hrest
        refine ⟨?_, hlast⟩
        rw [Stage.settings_step] at hsaid
        rw [List.filterMap_nil, List.append_nil]
        exact hsaid
      | cons text texts =>
        obtain ⟨rfl, hlater⟩ := List.cons.inj hheard
        obtain ⟨hafter, hsilent⟩ := h.step_text text now
        obtain ⟨hsaid, hlast⟩ := ih hafter hlater hkept hrest
        refine ⟨?_, hlast⟩
        rw [hsilent, hsaid, Stage.settings_run, List.append_assoc]
        cases hmessage : message? text with
        | none => rw [List.filterMap_cons_none hmessage]; rfl
        | some message => rw [List.filterMap_cons_some hmessage]; rfl

/-- A client that asks for a socket to chat talks over it from then on. -/
theorem Performs.talks_new (h : server.Performs stage) (time : Timestamp) {request : Http.Request}
    (hpath : request.target.path = Route.chat.path) (hrefusal : socketRefusal? request = none) :
    server.move? (.request request) = some .openSession ∧
      ∃ session, session.state = .awaitingHello ∧
        (server.step time (.request request)).Talks (stage.step time .openSession)
          ⟨server.sockets.size⟩ ⟨stage.hub.sessions.size⟩ session [] := by
  obtain ⟨hasked, hopened⟩ := request_of_chat time server hpath hrefusal
  obtain ⟨session, hwaits, hattends⟩ := stage.attends_new time
  have hmove : server.move? (.request request) = some .openSession := hasked
  have hperforms := h.step time (.request request)
  rw [hmove] at hperforms
  have hsocket : (server.step time (.request request)).socket? ⟨server.sockets.size⟩ =
      some ⟨.chat ⟨stage.hub.sessions.size⟩, [], none⟩ := by
    rw [Server.step, hopened, h.staged.hub_eq]
    exact Array.getElem?_push_size
  exact ⟨hmove, session, hwaits, hperforms, ⟨[], hsocket⟩, hattends⟩

end Server

end BroadcastChat
