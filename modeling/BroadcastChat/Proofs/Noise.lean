/-
# Frames that make no difference

Most of what can come in over a socket to chat means nothing to the session
behind it: binary frames, pings and pongs, texts that hold no valid chat frame,
and whatever comes in behind the first close frame. Leaving all of it out
(`Server.sift`) leaves the core of what came in, and changes nothing: the
server ends in the same state and its hub makes the same moves, so that it
handles the registry, broadcasts and delivers as before and each session ends
as before (`Server.run_sift`). An error need not be cut at, since the session
itself overlooks what comes in behind it (`Stage.run_heeded`). And as long as a
client sends frames and does not close, its session goes on whatever is in
them, until the hub itself ends it (`Server.Talks.stays`).

Key definitions: `Server.sift`, `Incoming.said?`, `Session.State.Follows`,
`Stage.CutOff`, `Server.Overlooks`.
Key theorems: `Incoming.counts_eq_false_iff`, `Incoming.inbound_core`,
`Server.heardOver_sift`, `Server.run_sift`, `Server.Talks.stays`,
`bad_frames_are_invisible`.
-/
import BroadcastChat.Proofs.Script
import BroadcastChat.Proofs.Talks
import BroadcastChat.Proofs.Unheard

namespace BroadcastChat

/-! ### What counts -/

namespace Incoming

/-- A frame that is part of the protocol or is no text. -/
def isForeign : Incoming → Bool
  | .frame (.binary _) | .frame (.ping _) | .frame (.pong _) => true
  | _ => false

/-- **What does not count** are frames that hold no text and texts that hold no valid chat frame. -/
theorem counts_eq_false_iff {incoming : Incoming} : incoming.counts = false ↔
    incoming.isForeign = true ∨ ∃ text, incoming = .frame (.text text) ∧
      ∀ frame, ChatFrame.reader.read text = .ok frame → ¬frame.Fits := by
  cases incoming with
  | frame frame =>
    cases frame with
    | text text =>
      have hcounts : counts (.frame (.text text)) = (message? text).isSome := by
        simp [counts, isClose, arrival?]
      rw [hcounts, Option.isSome_eq_false_iff, Option.isNone_iff_eq_none,
        Server.message?_eq_none_iff]
      simp [isForeign]
    | _ => simp [counts, isClose, arrival?, isForeign]
  | _ => simp [counts, isClose, arrival?, isForeign]

theorem not_isClose_of_not_counts {incoming : Incoming} (h : incoming.counts = false) :
    incoming.isClose = false ∧ incoming.arrival? = none := by
  simpa [counts] using h

/-- **The session's stream carries the same** whether all has come in or only its core. -/
theorem inbound_core (all : List Incoming) : inbound (core all) = inbound all := by
  have hcarried : ((core all).takeWhile fun incoming => !incoming.isClose).filterMap arrival? =
      (all.takeWhile fun incoming => !incoming.isClose).filterMap arrival? := by
    induction all with
    | nil => rfl
    | cons incoming rest ih =>
      rw [core]
      by_cases hclose : incoming.isClose = true
      · rw [if_pos hclose, List.takeWhile_cons_of_neg (by simp [hclose]),
          List.takeWhile_cons_of_neg (by simp [hclose])]
      · rw [if_neg hclose, List.takeWhile_cons_of_pos (by simp [hclose])]
        by_cases hcounts : incoming.counts = true
        · rw [if_pos hcounts, List.takeWhile_cons_of_pos (by simp [hclose]), List.filterMap_cons,
            List.filterMap_cons, ih]
        · obtain ⟨-, hnothing⟩ := not_isClose_of_not_counts (Bool.eq_false_iff.2 hcounts)
          rw [if_neg hcounts, List.filterMap_cons_none hnothing, ih]
  rw [inbound, inbound, hcarried]

end Incoming

/-! ### What is left out -/

namespace Server

variable {server : Server} {time : Timestamp} {place : SocketId} {socket : Socket}
  {id : SessionId} {incident : Incident} {incoming : Incoming}

/-- The incidents in which nothing comes in over a socket. -/
def unheard (place : SocketId) (incidents : List (Timestamp × Incident)) :
    List (Timestamp × Incident) :=
  incidents.filter fun incident => (incident.2.heardOn? place).isNone

/-- The incidents without what comes in over a socket and does not count, or stands behind a close
frame. -/
def sift (place : SocketId) : List (Timestamp × Incident) → List (Timestamp × Incident)
  | [] => []
  | incident :: rest =>
    match incident.2.heardOn? place with
    | none => incident :: sift place rest
    | some incoming =>
      if incoming.isClose then incident :: unheard place rest
      else if incoming.counts then incident :: sift place rest
      else sift place rest

theorem unheard_cons_of_none (h : incident.heardOn? place = none) (time : Timestamp)
    (rest : List (Timestamp × Incident)) :
    unheard place ((time, incident) :: rest) = (time, incident) :: unheard place rest :=
  List.filter_cons_of_pos (by simp [h])

theorem unheard_cons_of_some (h : incident.heardOn? place = some incoming) (time : Timestamp)
    (rest : List (Timestamp × Incident)) :
    unheard place ((time, incident) :: rest) = unheard place rest :=
  List.filter_cons_of_neg (by simp [h])

theorem heardOver_unheard (place : SocketId) (incidents : List (Timestamp × Incident)) :
    heardOver place (unheard place incidents) = [] := by
  refine List.filterMap_eq_nil_iff.2 fun incident hm => ?_
  exact Option.isNone_iff_eq_none.1 (List.mem_filter.1 hm).2

theorem unheard_unheard (place : SocketId) (incidents : List (Timestamp × Incident)) :
    unheard place (unheard place incidents) = unheard place incidents := by
  simp only [unheard, List.filter_filter, Bool.and_self]

/-- **What is left of what came in is its core.** -/
theorem heardOver_sift (place : SocketId) (incidents : List (Timestamp × Incident)) :
    heardOver place (sift place incidents) = Incoming.core (heardOver place incidents) := by
  induction incidents with
  | nil => rfl
  | cons incident rest ih =>
    obtain ⟨time, incident⟩ := incident
    rw [sift]
    cases hheard : incident.heardOn? place with
    | none => rw [heardOver_of_none hheard, heardOver_of_none hheard, ih]
    | some incoming =>
      rw [heardOver_of_some hheard, Incoming.core]
      dsimp only
      split
      · rw [heardOver_of_some hheard, heardOver_unheard]
      · split
        · rw [heardOver_of_some hheard, ih]
        · exact ih

/-- Everything else is left as it is. -/
theorem unheard_sift (place : SocketId) (incidents : List (Timestamp × Incident)) :
    unheard place (sift place incidents) = unheard place incidents := by
  induction incidents with
  | nil => rfl
  | cons incident rest ih =>
    obtain ⟨time, incident⟩ := incident
    rw [sift]
    cases hheard : incident.heardOn? place with
    | none => rw [unheard_cons_of_none hheard, unheard_cons_of_none hheard, ih]
    | some incoming =>
      rw [unheard_cons_of_some hheard]
      dsimp only
      split
      · rw [unheard_cons_of_some hheard, unheard_unheard]
      · split
        · rw [unheard_cons_of_some hheard, ih]
        · exact ih

theorem sift_sublist (place : SocketId) (incidents : List (Timestamp × Incident)) :
    (sift place incidents).Sublist incidents := by
  induction incidents with
  | nil => exact .slnil
  | cons incident rest ih =>
    rw [sift]
    split
    · exact ih.cons_cons incident
    · split
      · exact List.filter_sublist.cons_cons incident
      · split
        · exact ih.cons_cons incident
        · exact ih.cons incident

/-! ### What it does -/

theorem step_receive_of_over (h : server.socket? place = some socket)
    (hover : socket.finish.isNone = false) (time : Timestamp) (incoming : Incoming) :
    server.step time (.receive place incoming) = server ∧
      server.move? (.receive place incoming) = none := by
  refine ⟨?_, ?_⟩
  · rw [step, receive_of_over incoming h hover, Option.getD_none]
  · simp [move?, h, hover]

theorem socket?_step_of_over (h : server.socket? place = some socket)
    (hover : socket.finish.isNone = false) (time : Timestamp) (incident : Incident) :
    (server.step time incident).socket? place = some socket := by
  cases hheard : incident.heardOn? place with
  | some incoming =>
    rw [Incident.eq_of_heardOn? hheard, (step_receive_of_over h hover time incoming).1, h]
  | none =>
    by_cases hwrite : incident = .write place
    · rw [hwrite, socket?_write h]
      rcases writeTo_cases server.hub socket with ⟨hsame, -⟩ | ⟨endpoint, hopen, -⟩
      · rw [hsame]
      · rw [hopen] at hover
        cases hover
    · exact socket?_step_of_other h hheard hwrite

/-- **What does not count changes nothing.** -/
theorem step_receive_of_not_counts (h : server.socket? place = some socket)
    (hrole : socket.role = .chat id) (hcounts : incoming.counts = false) (time : Timestamp) :
    server.step time (.receive place incoming) = server ∧
      server.move? (.receive place incoming) = none := by
  obtain ⟨hclose, hnothing⟩ := Incoming.not_isClose_of_not_counts hcounts
  cases hfinish : socket.finish with
  | some finish => exact step_receive_of_over h (by rw [hfinish]; rfl) time incoming
  | none =>
    have hlost : incoming ≠ .lost := by
      rintro rfl
      cases hnothing
    have hhear : hear server.hub id incoming = (none, server.hub) := by
      rw [hear, if_neg (by simp [hclose]), if_neg hlost, hnothing]
    refine ⟨?_, ?_⟩
    · have hsame : ({ socket with finish := none } : Socket) = socket := by rw [← hfinish]
      rw [step, receive_eq incoming h hfinish]
      simp only [hrole, hhear, Option.getD_some]
      rw [← hrole, hsame]
      exact put_self h
    · simp [move?, h, hfinish, heard?, hrole, hclose, hnothing]

/-- Whatever comes in over a socket, it serves whom it served; a close frame is the end of it. -/
theorem socket?_step_receive (h : server.socket? place = some socket)
    (hrole : socket.role = .chat id) (time : Timestamp) (incoming : Incoming) :
    ∃ after, (server.step time (.receive place incoming)).socket? place = some after ∧
      after.role = .chat id ∧ (incoming.isClose = true → after.finish.isNone = false) := by
  cases hfinish : socket.finish with
  | some finish =>
    have hover : socket.finish.isNone = false := by rw [hfinish]; rfl
    exact ⟨socket, socket?_step_of_over h hover time _, hrole, fun _ => hover⟩
  | none =>
    rw [step, receive_eq incoming h hfinish, Option.getD_some, hrole]
    dsimp only
    refine ⟨_, socket?_put_self h _, rfl, fun hclose => ?_⟩
    rw [hear, if_pos hclose]
    rfl

/-- **Once a socket is over, what comes in over it makes no difference.** -/
theorem run_unheard (incidents : List (Timestamp × Incident))
    (h : server.socket? place = some socket) (hover : socket.finish.isNone = false) :
    server.run (unheard place incidents) = server.run incidents ∧
      server.moves (unheard place incidents) = server.moves incidents := by
  induction incidents generalizing server with
  | nil => exact ⟨rfl, rfl⟩
  | cons incident rest ih =>
    obtain ⟨time, incident⟩ := incident
    cases hheard : incident.heardOn? place with
    | none =>
      obtain ⟨hrun, hmoves⟩ := ih (socket?_step_of_over h hover time incident)
      rw [unheard_cons_of_none hheard, moves, moves, hmoves]
      exact ⟨hrun, rfl⟩
    | some incoming =>
      cases Incident.eq_of_heardOn? hheard
      obtain ⟨hstep, hmove⟩ := step_receive_of_over h hover time incoming
      obtain ⟨hrun, hmoves⟩ := ih h
      rw [unheard_cons_of_some hheard, moves, hmove, hstep, hmoves]
      refine ⟨hrun.trans ?_, rfl⟩
      change server.run rest = (server.step time (.receive place incoming)).run rest
      rw [hstep]

/-- **Leaving out what does not count and what comes in behind a close frame changes nothing**: the
server ends as it did, and its hub has made the same moves. -/
theorem run_sift (incidents : List (Timestamp × Incident)) (h : server.socket? place = some socket)
    (hrole : socket.role = .chat id) :
    server.run (sift place incidents) = server.run incidents ∧
      server.moves (sift place incidents) = server.moves incidents := by
  induction incidents generalizing server socket with
  | nil => exact ⟨rfl, rfl⟩
  | cons incident rest ih =>
    obtain ⟨time, incident⟩ := incident
    -- an incident that is kept is the same step on both sides
    have hkeep : ∀ {kept : List (Timestamp × Incident)},
        (server.step time incident).run kept = (server.step time incident).run rest ∧
          (server.step time incident).moves kept = (server.step time incident).moves rest →
        server.run ((time, incident) :: kept) = server.run ((time, incident) :: rest) ∧
          server.moves ((time, incident) :: kept) = server.moves ((time, incident) :: rest) := by
      rintro kept ⟨hrun, hmoves⟩
      rw [moves, moves, hmoves]
      exact ⟨hrun, rfl⟩
    rw [sift]
    cases hheard : incident.heardOn? place with
    | none =>
      obtain ⟨after, hafter, hsame⟩ := role_step h hheard time
      exact hkeep (ih hafter (hsame.trans hrole))
    | some incoming =>
      cases Incident.eq_of_heardOn? hheard
      obtain ⟨after, hafter, hsame, hclosed⟩ := socket?_step_receive h hrole time incoming
      dsimp only
      split
      · rename_i hclose
        exact hkeep (run_unheard rest hafter (hclosed hclose))
      · split
        · exact hkeep (ih hafter hsame)
        · rename_i hcounts
          obtain ⟨hstep, hmove⟩ :=
            step_receive_of_not_counts h hrole (Bool.eq_false_iff.2 hcounts) time
          obtain ⟨hrun, hmoves⟩ := ih h hrole
          rw [moves, hmove, hstep, hmoves]
          refine ⟨hrun.trans ?_, rfl⟩
          change server.run rest = (server.step time (.receive place incoming)).run rest
          rw [hstep]

end Server

/-! ### A session whose client sends frames -/

/-- Where a session may stand when it has found some of these messages and nothing else. -/
inductive Session.State.Follows : List Message → Session.State → Session.State → Prop
  | same (messages : List Message) (state : Session.State) : Follows messages state state
  | named (hello : Message) (rest : List Message) :
    Follows (hello :: rest) .awaitingHello (.active hello.sender)

/-- What follows when the first message has been handled follows from the beginning. -/
theorem Session.State.Follows.of_next {message : Message} {messages : List Message}
    {state last : Session.State} (h : Follows messages (state.next (.message message)) last) :
    Follows (message :: messages) state last := by
  cases state with
  | awaitingHello =>
    cases h
    exact .named message messages
  | active name =>
    cases h
    exact .same _ _
  | closing name outcome =>
    cases h
    exact .same _ _
  | closed outcome =>
    cases h
    exact .same _ _

/-- What follows from what a session has made of its stream follows from what was there before. -/
theorem Session.State.Follows.of_takes {session session' : Session}
    {pending pending' more : List Message} {last : Session.State}
    (htakes : session.Takes pending session' pending')
    (h : Follows (pending' ++ more) session'.state last) :
    Follows (pending ++ more) session.state last := by
  cases htakes with
  | nothing => exact h
  | first message => exact h.of_next

namespace Stage

variable {stage : Stage} {log : List Event} {id : SessionId} {session : Session} {time : Timestamp}

/-- The hub has stopped, or has closed the session's endpoint: the session has to end, whatever its
client does. -/
def CutOff (stage : Stage) (session : Session) : Prop :=
  stage.hub.store.stopped = true ∨ stage.hub.store.Closed session.endpoint

theorem not_keeps_iff : ¬stage.Keeps id ↔ ∃ session, stage.hub.session? id = some session ∧
    session.isOver = false ∧ stage.CutOff session := by
  simp only [Keeps, CutOff, not_forall, not_and_or, not_not, Bool.not_eq_false, exists_prop]

/-- A hub that has stopped does not start again. -/
theorem stopped_run (moves : List (Timestamp × Move)) (h : stage.hub.store.stopped = true) :
    (stage.run moves).hub.store.stopped = true := by
  refine invariant_run (motive := fun stage => stage.hub.store.stopped = true) ?_ moves h
  intro stage time move hstopped
  cases hafter : (stage.step time move).hub.isShutDown with
  | true => exact hafter
  | false =>
    have hbefore := Moment.stopped_before ⟨stage, time, move⟩ hafter
    exact absurd (hstopped.symm.trans hbefore) (by decide)

/-- A session that is cut off ends in its next turn, and not for its client's sake. -/
theorem ends_of_cutOff (hsound : stage.Sound log) (hsession : stage.hub.session? id = some session)
    (hover : session.isOver = false) (h : stage.CutOff session) (time : Timestamp) :
    (stage.step time (.turn id)).hub.session? id = some (session.cutOff stage.hub.store) := by
  have hrests : session.Rests := hsound.rests session (mem_sessions hsession)
  obtain ⟨ending, hnext, houtcome⟩ := Session.exists_ending h time
  obtain ⟨-, -, hafter⟩ := Moment.turn_of_event hsession hover (congrArg Prod.fst hnext)
  rw [Session.run_handle hrests hover, Session.next_of_ending hrests hover houtcome] at hafter
  exact hafter

/-- **A session that is cut off** stays as it is until it ends as evicted or, on a hub that has
stopped, as cancelled. -/
theorem run_of_cutOff (moves : List (Timestamp × Move)) (hsound : stage.Sound log)
    (hsession : stage.hub.session? id = some session) (hover : session.isOver = false)
    (h : stage.CutOff session) :
    ∃ after, (stage.run moves).hub.session? id = some after ∧
      (after = session ∨ after.state = .closed .evicted ∨
        after.state = .closed .cancelled ∧ (stage.run moves).hub.store.stopped = true) := by
  induction moves generalizing stage log with
  | nil => exact ⟨session, hsession, .inl rfl⟩
  | cons move rest ih =>
    obtain ⟨time, move⟩ := move
    by_cases hturn : move = .turn id
    · subst hturn
      have hended := ends_of_cutOff hsound hsession hover h time
      refine ⟨_, session_run_of_over hended rfl rest, .inr ?_⟩
      rw [Session.cutOff]
      cases hstopped : stage.hub.store.stopped with
      | true => exact .inr ⟨rfl, stopped_run ((time, .turn id) :: rest) hstopped⟩
      | false => exact .inl rfl
    · refine ih (hsound.step time move) (session_step_of_ne hsession time hturn) ?_
      rcases h with hstopped | hclosed
      · exact .inl (stopped_run [(time, move)] hstopped)
      · exact .inr (closed_run [(time, move)] (hsound.has_endpoint hsession) hclosed).2

end Stage

/-- The message of a frame, if it is a text that holds a valid one. -/
def Incoming.said? : Incoming → Option Message
  | .frame (.text text) => message? text
  | _ => none

namespace Server

variable {server : Server} {stage : Stage} {time : Timestamp} {place : SocketId}
  {id : SessionId} {session : Session} {pending : List Message} {incident : Incident}

/-- A frame that does not close leaves the session where it is; a message that it holds comes in
behind the others. -/
theorem Talks.step_frame (h : server.Talks stage place id session pending) {frame : Frame}
    (hframe : frame ≠ .close) (time : Timestamp) :
    (server.step time (.receive place (.frame frame))).Talks
      (stage.run ((server.move? (.receive place (.frame frame))).toList.map (time, ·))) place id
      session (pending ++ (Incoming.frame frame).said?.toList) := by
  by_cases htext : ∃ text, frame = .text text
  · obtain ⟨text, rfl⟩ := htext
    exact (h.step_text text time).1
  · have hforeign : (Incoming.frame frame).counts = false ∧
        (Incoming.frame frame).said? = none := by
      cases frame with
      | text text => exact absurd ⟨text, rfl⟩ htext
      | close => exact absurd rfl hframe
      | _ => exact ⟨rfl, rfl⟩
    obtain ⟨sent, hsocket⟩ := h.socket
    obtain ⟨hstep, hmove⟩ := step_receive_of_not_counts hsocket rfl hforeign.1 time
    rw [hstep, hmove, hforeign.2]
    simp only [Option.toList_none, List.append_nil]
    exact h

/-- Once its session is cut off, nothing that comes in from a client matters to it. -/
theorem Talks.stays_of_not_keeps (incidents : List (Timestamp × Incident))
    (h : server.Talks stage place id session pending) (hnot : ¬stage.Keeps id) :
    ∃ after, (server.run incidents).hub.session? id = some after ∧
      (after = session ∨ after.state = .closed .evicted ∨
        after.state = .closed .cancelled ∧ (server.run incidents).hub.isShutDown = true) := by
  obtain ⟨session', hsession', hover, hcut⟩ := Stage.not_keeps_iff.1 hnot
  cases h.attends.session_eq.symm.trans hsession'
  obtain ⟨log, hsound⟩ := h.performs.sound
  rw [← (h.performs.run incidents).staged.hub_eq]
  exact Stage.run_of_cutOff (server.moves incidents) hsound hsession' hover hcut

/-- **As long as a client sends frames and does not close, its session goes on**, whatever is in
them: it stands where it stood, or under the name in the first message, unless the hub has stopped
or has closed its endpoint while it was running. -/
theorem Talks.stays (incidents : List (Timestamp × Incident))
    (h : server.Talks stage place id session pending)
    (hheard : ∀ incoming ∈ heardOver place incidents,
      ∃ frame, incoming = .frame frame ∧ frame ≠ .close) :
    ∃ after, (server.run incidents).hub.session? id = some after ∧
      (after.isOver = false ∧ session.state.Follows
          (pending ++ (heardOver place incidents).filterMap Incoming.said?) after.state ∨
        (∃ moment ∈ history (server.moves incidents) stage, ¬moment.stage.Keeps id) ∧
          (after.state = .closed .evicted ∨
            after.state = .closed .cancelled ∧
              (server.run incidents).hub.isShutDown = true)) := by
  induction incidents generalizing server stage session pending with
  | nil =>
    refine ⟨session, ?_, .inl ⟨h.attends.running, .same _ _⟩⟩
    change server.hub.session? id = some session
    rw [← h.performs.staged.hub_eq]
    exact h.attends.session_eq
  | cons incident rest ih =>
    obtain ⟨now, incident⟩ := incident
    cases hin : incident.heardOn? place with
    | none =>
      by_cases hkeeps : ∀ move, server.move? incident = some move → stage.Keeps id
      · obtain ⟨session', pending', hnext, htakes, -⟩ := h.step_quiet hin hkeeps now
        rw [heardOver_of_none hin] at hheard ⊢
        obtain ⟨after, hafter, hstands⟩ := ih hnext hheard
        refine ⟨after, hafter, ?_⟩
        rw [moves, history_append]
        rcases hstands with ⟨hover, hfollows⟩ | ⟨⟨moment, hm, hnot⟩, hended⟩
        · exact .inl ⟨hover, hfollows.of_takes htakes⟩
        · exact .inr ⟨⟨moment, List.mem_append_right _ hm, hnot⟩, hended⟩
      · -- from here on the session does not look at its stream any more
        obtain ⟨move, hmove, hnot⟩ : ∃ move, server.move? incident = some move ∧
            ¬stage.Keeps id := by
          simpa only [not_forall, exists_prop] using hkeeps
        obtain ⟨after, hafter, hstands⟩ := h.stays_of_not_keeps ((now, incident) :: rest) hnot
        refine ⟨after, hafter, ?_⟩
        rcases hstands with rfl | hended
        · exact .inl ⟨h.attends.running, .same _ _⟩
        · refine .inr ⟨⟨⟨stage, now, move⟩, ?_, hnot⟩, hended⟩
          rw [moves, history_append, hmove, history_toList]
          exact List.mem_append_left _ List.mem_cons_self
    | some incoming =>
      cases Incident.eq_of_heardOn? hin
      rw [heardOver_of_some hin] at hheard ⊢
      obtain ⟨⟨frame, rfl, hframe⟩, hlater⟩ := List.forall_mem_cons.1 hheard
      obtain ⟨after, hafter, hstands⟩ := ih (h.step_frame hframe now) hlater
      refine ⟨after, hafter, ?_⟩
      rw [moves, history_append]
      rcases hstands with ⟨hover, hfollows⟩ | ⟨⟨moment, hm, hnot⟩, hended⟩
      · refine .inl ⟨hover, ?_⟩
        rw [List.append_assoc] at hfollows
        cases hsaid : (Incoming.frame frame).said? with
        | none =>
          rw [hsaid] at hfollows
          rwa [List.filterMap_cons_none hsaid]
        | some message =>
          rw [hsaid] at hfollows
          rwa [List.filterMap_cons_some hsaid]
      · exact .inr ⟨⟨moment, List.mem_append_right _ hm, hnot⟩, hended⟩

end Server

/-! ### Bad frames -/

/-- **What comes in over a socket to chat and does not count makes no difference**: frames that hold
no text, texts that hold no valid chat frame, and whatever is behind the first close frame. -/
structure Server.Overlooks (server : Server) (place : SocketId) (id : SessionId)
    (incidents : List (Timestamp × Server.Incident)) : Prop where
  counts_iff : ∀ incoming : Incoming, incoming.counts = false ↔
    incoming.isForeign = true ∨ ∃ text, incoming = .frame (.text text) ∧
      ∀ frame, ChatFrame.reader.read text = .ok frame → ¬frame.Fits
  /-- Leaving it out leaves the core of what comes in over the socket, which tells the session just
  the same, -/
  heard_eq : Server.heardOver place (Server.sift place incidents) =
    Incoming.core (Server.heardOver place incidents)
  inbound_eq : Incoming.inbound (Incoming.core (Server.heardOver place incidents)) =
    Incoming.inbound (Server.heardOver place incidents)
  /-- and all else as it is. -/
  sublist : (Server.sift place incidents).Sublist incidents
  unheard_eq : Server.unheard place (Server.sift place incidents) = Server.unheard place incidents
  /-- The server ends in the same state, sockets and outcomes of sessions included. -/
  run_eq : server.run (Server.sift place incidents) = server.run incidents
  /-- Its hub makes the same moves, and so handles the registry, broadcasts and delivers the same
  way. -/
  moves_eq : server.moves (Server.sift place incidents) = server.moves incidents
  /-- What comes in for the session behind the first close frame or the first error makes no
  difference to the hub either, but that it may stay on the session's stream. -/
  heeded_eq : ∀ stage session, server.Performs stage → server.hub.session? id = some session →
    ∃ left, stage.run (server.moves incidents) =
        (stage.run (heeded id (server.moves incidents))).onStream session.inbound left ∧
      logOf (history (server.moves incidents) stage) =
        logOf (history (heeded id (server.moves incidents)) stage)
  /-- As long as frames come in and none closes, the session stands where it stood, or under the
  name in its first message, unless the hub has stopped or has closed its endpoint. -/
  stays : ∀ stage session pending, server.Talks stage place id session pending →
    (∀ incoming ∈ Server.heardOver place incidents,
      ∃ frame, incoming = .frame frame ∧ frame ≠ .close) →
    ∃ after, (server.run incidents).hub.session? id = some after ∧
      (after.isOver = false ∧ session.state.Follows
          (pending ++ (Server.heardOver place incidents).filterMap Incoming.said?) after.state ∨
        (∃ moment ∈ history (server.moves incidents) stage, ¬moment.stage.Keeps id) ∧
          (after.state = .closed .evicted ∨ after.state = .closed .cancelled ∧
            (server.run incidents).hub.isShutDown = true))

/-- **Bad frames are invisible**, whatever happens in between. -/
theorem bad_frames_are_invisible {server : Server} {place : SocketId} {socket : Socket}
    {id : SessionId} (hsocket : server.socket? place = some socket)
    (hrole : socket.role = .chat id) (incidents : List (Timestamp × Server.Incident)) :
    server.Overlooks place id incidents where
  counts_iff _ := Incoming.counts_eq_false_iff
  heard_eq := Server.heardOver_sift place incidents
  inbound_eq := Incoming.inbound_core _
  sublist := Server.sift_sublist place incidents
  unheard_eq := Server.unheard_sift place incidents
  run_eq := (Server.run_sift incidents hsocket hrole).1
  moves_eq := (Server.run_sift incidents hsocket hrole).2
  heeded_eq stage session hperforms hsession := by
    rw [← hperforms.staged.hub_eq] at hsession
    exact Stage.run_heeded (server.moves incidents) hperforms.streams hsession
  stays stage session pending htalks hframes := htalks.stays incidents hframes

namespace Sample

/-- Frames that do not count come in, and the session looks for something to do. -/
def noise : List (Timestamp × Server.Incident) :=
  [(⟨2⟩, .receive ⟨0⟩ (.frame (.text "hello"))), (⟨3⟩, .turn ⟨0⟩),
   (⟨4⟩, .receive ⟨0⟩ (.frame (.binary [1, 2, 3]))), (⟨5⟩, .receive ⟨0⟩ (.frame (.ping []))),
   (⟨6⟩, .turn ⟨0⟩)]

/-- Alice comes and leaves, and something still comes in. -/
def coming : List (Timestamp × Server.Incident) :=
  [(⟨7⟩, .receive ⟨0⟩ (.frame (.text (Client.Console.greeting alice).json))), (⟨8⟩, .turn ⟨0⟩),
   (⟨9⟩, .receive ⟨0⟩ (.frame .close)),
   (⟨10⟩, .receive ⟨0⟩ (.frame (.text (Client.Console.greeting alice).json))),
   (⟨11⟩, .turn ⟨0⟩)]

end Sample

/-- The session overlooks the noise; of all that comes in Alice's first message and her close frame
count. -/
theorem bad_frames_are_invisible_noise :
    let server := (Server.new {}).run Sample.opened
    let incidents := Sample.noise ++ Sample.coming
    Server.heardOver ⟨0⟩ (Server.sift ⟨0⟩ incidents) =
      [.frame (.text (Client.Console.greeting Sample.alice).json), .frame .close] ∧
    server.run (Server.sift ⟨0⟩ incidents) = server.run incidents ∧
    ∃ after, (server.run Sample.noise).hub.session? ⟨0⟩ = some after ∧
      after.state = .awaitingHello := by
  intro server incidents
  have hopened : (Server.new {}).step ⟨1⟩ (.request (Client.socketRequest
      ⟨Server.Route.chat.path, ""⟩)) = server := (Server.run_singleton _ _ _).symm
  have hserver : server = ((Server.new {}).openSocket ⟨1⟩ .chat).2 := by
    rw [← hopened, Server.step, Server.request_chat]
  have hnew : (Server.new {}).Performs (Stage.new {}) := Server.performs_run {} []
  obtain ⟨-, session, hwaits, htalks⟩ :=
    hnew.talks_new ⟨1⟩ rfl (Server.socketRefusal?_socketRequest ⟨Server.Route.chat.path, ""⟩)
  rw [hopened] at htalks
  change server.Talks ((Stage.new {}).step ⟨1⟩ .openSession) ⟨0⟩ ⟨0⟩ session [] at htalks
  clear_value server
  obtain ⟨sent, hsocket⟩ := htalks.socket
  have hnothing : Incoming.message? "hello" = none := by decide +kernel
  refine ⟨?_, ?_, ?_⟩
  · have hgreeting : Incoming.message? (Client.Console.greeting Sample.alice).json =
        some ⟨Sample.alice, .empty⟩ := Incoming.message?_of_fits Sample.alice .empty
    refine (bad_frames_are_invisible hsocket rfl incidents).heard_eq.trans ?_
    simp [incidents, Sample.noise, Sample.coming, Server.heardOver, Server.Incident.heardOn?,
      Incoming.core, Incoming.counts, Incoming.isClose, Incoming.arrival?, hnothing, hgreeting]
  · exact (bad_frames_are_invisible hsocket rfl incidents).run_eq
  · have hoverlooks := bad_frames_are_invisible hsocket rfl Sample.noise
    have hheard : Server.heardOver ⟨0⟩ Sample.noise =
        [.frame (.text "hello"), .frame (.binary [1, 2, 3]), .frame (.ping [])] := by
      decide +kernel
    have hkept : ∀ moment ∈ history (server.moves Sample.noise)
        ((Stage.new {}).step ⟨1⟩ .openSession), moment.stage.Keeps ⟨0⟩ := by
      rw [hserver]
      decide +kernel
    obtain ⟨after, hafter, ⟨-, hfollows⟩ | ⟨⟨moment, hm, hnot⟩, -⟩⟩ :=
      hoverlooks.stays _ _ _ htalks (by simp [hheard])
    · refine ⟨after, hafter, ?_⟩
      rw [hheard, hwaits] at hfollows
      simp only [List.filterMap_cons, Incoming.said?, hnothing, List.filterMap_nil,
        List.append_nil] at hfollows
      generalize after.state = state at hfollows ⊢
      cases hfollows
      rfl
    · exact absurd (hkept moment hm) hnot

end BroadcastChat
