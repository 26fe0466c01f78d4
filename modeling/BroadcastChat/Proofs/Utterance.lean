/-
# What one session says

What a session says is decided by what arrives from its client: the messages on
its stream, one after the other, each in the state in which the one before left
the session (`Session.voices`). A session that has not ended attends to its
stream (`Stage.Attends`): its turns take messages off at the front, what
arrives is put at the end, and no other move changes it. So as long as the hub
keeps the session, what it has said and what it is still going to say are
together what its client has sent (`Stage.Attends.concludes`).

Where nobody but the session holds a name and nobody submits under it, what is
spoken under the name is what the session says (`spoken_under`).

Key definitions: `Session.voices`, `saidBy`, `Stage.Keeps`, `Stage.Alone`,
`Stage.Attends`.
Key theorems: `Session.voices_of_awaiting`, `Stage.Attends.turn`,
`Stage.Attends.turn_end`, `Stage.Attends.of_other`, `Stage.Attends.concludes`,
`Moment.turn_of_spoken`, `spoken_under`.
-/
import BroadcastChat.Proofs.Cues
import BroadcastChat.Proofs.Settling
import BroadcastChat.Proofs.Uptake

namespace BroadcastChat

/-! ### Message by message -/

namespace Session

/-- What a session broadcasts of messages that it handles one after the other. -/
def voices (policy : GreetingPolicy) : Session → List Message → List Message
  | _, [] => []
  | session, message :: rest =>
    (session.speech? policy message).toList ++
      voices policy { session with state := session.state.next (.message message) } rest

variable {policy : GreetingPolicy} {session : Session}

/-- A session that is active says everything, under its own name. -/
theorem voices_of_active {name : Name} (hs : session.state = .active name)
    (messages : List Message) :
    session.voices policy messages = messages.map (·.sentAs name) := by
  induction messages generalizing session with
  | nil => rfl
  | cons message rest ih =>
    have hspeech : session.speech? policy message = some (message.sentAs name) := by
      simp only [speech?, hs]
    have hnext : session.state.next (.message message) = .active name := by
      rw [hs]
      rfl
    rw [voices, hspeech, hnext, ih rfl]
    rfl

/-- A session says its first message only if greetings are broadcast, and everything behind it. -/
theorem voices_of_awaiting (hs : session.state = .awaitingHello) (hello : Message)
    (rest : List Message) :
    session.voices policy (hello :: rest) =
      (if policy = .broadcast then [hello] else []) ++ rest.map (·.sentAs hello.sender) := by
  have hnext : session.state.next (.message hello) = .active hello.sender := by
    rw [hs]
    rfl
  have hspeech : (session.speech? policy hello).toList =
      if policy = .broadcast then [hello] else [] := by
    cases policy <;> simp [speech?, hs]
  rw [voices, hspeech, hnext, voices_of_active rfl]

/-- What a session has made of the messages on its stream: nothing, or it has handled the first. -/
inductive Takes : Session → List Message → Session → List Message → Prop
  | nothing (session : Session) (pending : List Message) : Takes session pending session pending
  | first (session : Session) (message : Message) (pending : List Message) :
    Takes session (message :: pending)
      { session with state := session.state.next (.message message) } pending

/-- A message never ends a session. -/
theorem running_next (hover : session.isOver = false) (hrests : session.Rests) (message : Message) :
    ({ session with state := session.state.next (.message message) } : Session).isOver = false := by
  cases hs : session.state with
  | awaitingHello => exact isOver_of_active rfl
  | active name => exact isOver_of_active rfl
  | closing name outcome => exact absurd hs (hrests name outcome)
  | closed outcome =>
    rw [isOver, hs] at hover
    cases hover

end Session

/-- What a session says in these moments. -/
def saidBy (id : SessionId) (moments : List Moment) : List Delivery :=
  (moments.filter fun moment => moment.move = .turn id).filterMap Moment.spoken?

section

variable {id : SessionId} {moment : Moment}

theorem saidBy_of_turn (h : moment.move = .turn id) (rest : List Moment) :
    saidBy id (moment :: rest) = moment.spoken?.toList ++ saidBy id rest := by
  rw [saidBy, List.filter_cons_of_pos (by simp [h]), List.filterMap_cons]
  cases moment.spoken? <;> rfl

theorem saidBy_of_other (h : moment.move ≠ .turn id) (rest : List Moment) :
    saidBy id (moment :: rest) = saidBy id rest := by
  rw [saidBy, List.filter_cons_of_neg (by simp [h]), saidBy]

theorem saidBy_append (id : SessionId) (moments more : List Moment) :
    saidBy id (moments ++ more) = saidBy id moments ++ saidBy id more := by
  rw [saidBy, List.filter_append, List.filterMap_append]
  rfl

end

/-! ### What a session finds -/

theorem Hub.heard?_eq {hub : Hub} {id : SessionId} {session : Session}
    (hsession : hub.session? id = some session) (hover : session.isOver = false)
    (time : Timestamp) : hub.heard? time id = session.found? hub.store := by
  have hrunning : ¬session.isOver = true := by simp [hover]
  rw [heard?, hsession]
  dsimp only
  rw [if_neg hrunning, Session.fst_run_nextEvent]

namespace Stage

variable {stage : Stage} {log : List Event} {time : Timestamp} {id : SessionId}
  {session : Session} {pending : List Message} {isOpen : Bool} {move : Move}

theorem settings_step (stage : Stage) (time : Timestamp) (move : Move) :
    (stage.step time move).hub.settings = stage.hub.settings := by
  cases move with
  | letGo listener =>
    simp only [step]
    split <;> rfl
  | arrive id arrival =>
    simp only [step, Hub.send]
    split
    · rfl
    · split
      · split <;> rfl
      · rfl
  | endInput id =>
    simp only [step, Hub.endInput]
    split <;> rfl
  | turn id =>
    cases hturn : stage.hub.turn time id with
    | none => simp only [step, hturn, Option.getD_none]
    | some after =>
      obtain ⟨_, _, _, _, _, rfl⟩ := turn_eq_some hturn
      simp only [step, hturn, Option.getD_some]
  | dropOutbound id =>
    simp only [step]
    split <;> rfl
  | _ => rfl

/-- Unless the session has ended, the hub runs and has not closed the session's endpoint. -/
def Keeps (stage : Stage) (id : SessionId) : Prop :=
  ∀ session, stage.hub.session? id = some session → session.isOver = false →
    stage.hub.store.stopped = false ∧ ¬stage.hub.store.Closed session.endpoint

instance : Decidable (stage.Keeps id) :=
  inferInstanceAs (Decidable (∀ session ∈ stage.hub.session? id, session.isOver = false →
    stage.hub.store.stopped = false ∧ ¬stage.hub.store.Closed session.endpoint))

/-- Nobody but the session holds the name. -/
def Alone (stage : Stage) (name : Name) (id : SessionId) : Prop :=
  ∀ e, stage.hub.store.Binds name e →
    ∃ session, stage.hub.session? id = some session ∧ session.endpoint = e

instance {name : Name} : Decidable (stage.Alone name id) :=
  inferInstanceAs (Decidable (∀ e ∈ stage.hub.store.registry.lookup name,
    ∃ session ∈ stage.hub.session? id, session.endpoint = e))

/-- The session has not ended, and these messages are on its stream, to which more may come or
not. -/
structure Attends (stage : Stage) (id : SessionId) (session : Session) (pending : List Message)
    (isOpen : Bool) : Prop where
  session_eq : stage.hub.session? id = some session
  inbound_eq : stage.hub.store.inbound session.inbound = ⟨pending.map .message, isOpen⟩
  running : session.isOver = false

theorem attends_new (stage : Stage) (time : Timestamp) :
    ∃ session, session.state = .awaitingHello ∧
      (stage.step time .openSession).Attends ⟨stage.hub.sessions.size⟩ session [] true := by
  refine ⟨⟨(stage.hub.store.newEndpoint stage.hub.settings.capacity).1,
    stage.hub.store.newInbound.1, .awaitingHello⟩, rfl, Array.getElem?_push_size, ?_, rfl⟩
  have hnew : (stage.hub.store.inbounds.push Inbound.new)[stage.hub.store.inbounds.size]? =
      some .new := Array.getElem?_push_size
  exact congrArg (fun found : Option Inbound => found.getD .spent) hnew

namespace Attends

/-- What a session finds that is kept is what is next on its stream. -/
theorem found?_eq (h : stage.Attends id session pending isOpen) (hkeeps : stage.Keeps id) :
    session.found? stage.hub.store =
      Session.Event.ofNext? (Inbound.read ⟨pending.map .message, isOpen⟩).1 := by
  obtain ⟨hrunning, hopen⟩ := hkeeps session h.session_eq h.running
  have hnot : ¬stage.hub.store.stopped = true := by simp [hrunning]
  have hstill : ¬(stage.hub.store.endpoint session.endpoint).isClosed = true := hopen
  unfold Session.found?
  rw [if_neg hnot, if_neg hstill, h.inbound_eq]

/-! ### In its own turns -/

theorem turn_message {message : Message}
    (h : stage.Attends id session (message :: pending) isOpen) (hkeeps : stage.Keeps id)
    (hrests : session.Rests) (time : Timestamp) :
    (stage.step time (.turn id)).Attends id
        { session with state := session.state.next (.message message) } pending isOpen ∧
      Moment.spoken? ⟨stage, time, .turn id⟩ =
        (session.speech? stage.hub.settings.policy message).map (⟨·, time⟩) := by
  have hfound : session.found? stage.hub.store = some (.message message) := h.found?_eq hkeeps
  obtain ⟨heard, hheard, hnext, -, -, hstore, hafter⟩ :=
    step_turn_of_found h.session_eq hfound time h.running
  rw [Session.run_handle hrests h.running] at hafter
  have hread : heard.inbound session.inbound = ⟨pending.map .message, isOpen⟩ := by
    obtain ⟨hrunning, hopen⟩ := hkeeps session h.session_eq h.running
    rw [hheard, (Session.nextEvent_open time hrunning hopen).1, Hub.inbound_receive, h.inbound_eq]
    rfl
  have hunread : (stage.step time (.turn id)).hub.store.inbound session.inbound =
      heard.inbound session.inbound := by
    rw [hstore]
    exact Program.inbound_run fun _ hm =>
      (Session.only_handle_not_receive _ session (.message message)).of_mem_trace hm _
  refine ⟨⟨hafter, hunread.trans hread, Session.running_next h.running hrests message⟩, ?_⟩
  have hspoken : stage.hub.heard? time id = some (.message message) :=
    (Hub.heard?_eq h.session_eq h.running time).trans hfound
  simp only [Moment.spoken?, h.session_eq, hspoken]

/-- With nothing on the stream and more to come the session waits. -/
theorem turn_idle (h : stage.Attends id session [] true) (hkeeps : stage.Keeps id)
    (time : Timestamp) :
    stage.step time (.turn id) = stage ∧ Moment.spoken? ⟨stage, time, .turn id⟩ = none := by
  have hheard : stage.hub.heard? time id = none :=
    (Hub.heard?_eq h.session_eq h.running time).trans (h.found?_eq hkeeps)
  refine ⟨?_, ?_⟩
  · rw [step, Hub.turn_of_not_heard? hheard, Option.getD_none]
  · simp only [Moment.spoken?, h.session_eq, hheard]

/-- **In a turn of its own a session whose client may have more to say** says what is next on its
stream, if there is something. -/
theorem turn (h : stage.Attends id session pending true) (hkeeps : stage.Keeps id)
    (hrests : session.Rests) (time : Timestamp) :
    ∃ session' pending', (stage.step time (.turn id)).Attends id session' pending' true ∧
      session.Takes pending session' pending' ∧
      ∀ more, session.voices stage.hub.settings.policy (pending ++ more) =
        (Moment.spoken? ⟨stage, time, .turn id⟩).toList.map Delivery.message ++
          session'.voices stage.hub.settings.policy (pending' ++ more) := by
  cases pending with
  | nil =>
    obtain ⟨hsame, hsilent⟩ := h.turn_idle hkeeps time
    refine ⟨session, [], ?_, .nothing session [], fun more => ?_⟩
    · rw [hsame]
      exact h
    · rw [hsilent]
      rfl
  | cons message pending =>
    obtain ⟨hafter, hspoken⟩ := h.turn_message hkeeps hrests time
    refine ⟨_, pending, hafter, .first session message pending, fun more => ?_⟩
    rw [hspoken, List.cons_append, Session.voices]
    cases session.speech? stage.hub.settings.policy message <;> rfl

/-- With nothing on the stream and nothing more to come the session ends. -/
theorem turn_end (h : stage.Attends id session [] false) (hkeeps : stage.Keeps id)
    (hrests : session.Rests) (time : Timestamp) :
    (∃ ended, (stage.step time (.turn id)).hub.session? id = some ended ∧ ended.isOver = true) ∧
      Moment.spoken? ⟨stage, time, .turn id⟩ = none := by
  have hheard : stage.hub.heard? time id = some (.ending .ended) :=
    (Hub.heard?_eq h.session_eq h.running time).trans (h.found?_eq hkeeps)
  obtain ⟨session', hsession', hover, hnext⟩ := Hub.session_of_heard? hheard
  cases h.session_eq.symm.trans hsession'
  obtain ⟨-, -, hafter⟩ := Moment.turn_of_event hsession' hover hnext
  refine ⟨⟨_, hafter, ?_⟩, ?_⟩
  · exact Session.outcome_handle_ending hover hrests
  · simp only [Moment.spoken?, h.session_eq, hheard]

/-- A session whose client has said all has something to do. -/
theorem turn_ne_none (h : stage.Attends id session pending false) (time : Timestamp) :
    stage.hub.turn time id ≠ none := by
  have hfound : ∃ event, session.found? stage.hub.store = some event := by
    unfold Session.found?
    rw [h.inbound_eq]
    split
    · exact ⟨_, rfl⟩
    · split
      · exact ⟨_, rfl⟩
      · cases pending <;> exact ⟨_, rfl⟩
  obtain ⟨event, hevent⟩ := hfound
  have hnext : (session.nextEvent.run time stage.hub.store).1 = some event := by
    rw [Session.fst_run_nextEvent, hevent]
  rw [Hub.turn_of_heard? h.session_eq h.running hnext]
  simp

/-! ### In other moves -/

/-- What is put on the stream of a session comes in behind everything else. -/
theorem of_arrive (h : stage.Attends id session pending true) (time : Timestamp)
    (message : Message) :
    (stage.step time (.arrive id (.message message))).Attends id session (pending ++ [message])
      true := by
  have hopen : (stage.hub.store.inbound session.inbound).isOpen = true := by rw [h.inbound_eq]
  have hsend : (stage.step time (.arrive id (.message message))).hub = { stage.hub with
      store := stage.hub.store.updateInbound session.inbound (·.push (.message message)) } := by
    simp only [step, Hub.send, h.session_eq, hopen, h.running, if_true]
    rfl
  refine ⟨?_, ?_, h.running⟩
  · rw [hsend]
    exact h.session_eq
  · rw [hsend, Store.inbound_updateInbound_self _ (Store.lt_of_isOpen hopen), h.inbound_eq,
      Inbound.push, List.map_append]
    rfl

theorem of_endInput (h : stage.Attends id session pending true) (time : Timestamp) :
    (stage.step time (.endInput id)).Attends id session pending false := by
  have hopen : (stage.hub.store.inbound session.inbound).isOpen = true := by rw [h.inbound_eq]
  have hend : (stage.step time (.endInput id)).hub = { stage.hub with
      store := stage.hub.store.updateInbound session.inbound Inbound.finish } := by
    simp only [step, Hub.endInput, h.session_eq]
  refine ⟨?_, ?_, h.running⟩
  · rw [hend]
    exact h.session_eq
  · rw [hend, Store.inbound_updateInbound_self _ (Store.lt_of_isOpen hopen), h.inbound_eq]
    rfl

/-- A move that has nothing to do with the session or its client changes nothing for it. -/
theorem of_other (h : stage.Attends id session pending isOpen) (hstreams : stage.Streams)
    (hturn : move ≠ .turn id) (hid : move.concerns? stage.hub ≠ some id) (time : Timestamp) :
    (stage.step time move).Attends id session pending isOpen := by
  have hsame : (stage.step time move).hub.store.inbound session.inbound =
      stage.hub.store.inbound session.inbound :=
    Moment.inbound_of_other ⟨stage, time, move⟩ hstreams h.session_eq hid hturn
  exact ⟨session_step_of_ne h.session_eq time hturn, hsame.trans h.inbound_eq, h.running⟩

end Attends

/-! ### After the client's end -/

theorem saidBy_of_over (moves : List (Timestamp × Move))
    (h : stage.hub.session? id = some session) (hover : session.isOver = true) :
    saidBy id (history moves stage) = [] ∧ (stage.run moves).hub.session? id = some session := by
  induction moves generalizing stage with
  | nil => exact ⟨rfl, h⟩
  | cons move rest ih =>
    obtain ⟨hsaid, hlast⟩ := ih (session_step_of_over h hover move.1 move.2)
    refine ⟨?_, hlast⟩
    rw [history]
    by_cases hmove : move.2 = .turn id
    · have hheard : stage.hub.heard? move.1 id = none := by
        rw [Hub.heard?, h]
        exact if_pos hover
      have hsilent : Moment.spoken? ⟨stage, move.1, move.2⟩ = none := by
        simp only [Moment.spoken?, hmove, h, hheard]
      rw [saidBy_of_turn hmove, hsilent, hsaid]
      rfl
    · rw [saidBy_of_other hmove, hsaid]

/-- **A session whose client has said all says what is on its stream and ends.** -/
theorem Attends.concludes (moves : List (Timestamp × Move))
    (h : stage.Attends id session pending false) (hsound : stage.Sound log)
    (hstreams : stage.Streams)
    (hother : ∀ moment ∈ history moves stage, moment.move.concerns? moment.stage.hub ≠ some id)
    (hkeeps : ∀ moment ∈ history moves stage, moment.stage.Keeps id)
    (hrest : (stage.run moves).hub.turn time id = none) :
    (saidBy id (history moves stage)).map Delivery.message =
        session.voices stage.hub.settings.policy pending ∧
      ∃ ended, (stage.run moves).hub.session? id = some ended ∧ ended.isOver = true := by
  induction moves generalizing stage log session pending with
  | nil => exact absurd hrest (h.turn_ne_none time)
  | cons move rest ih =>
    have hnow : stage.Keeps id := hkeeps _ List.mem_cons_self
    have hrests : session.Rests := hsound.rests session (mem_sessions h.session_eq)
    have hothers : ∀ moment ∈ history rest (stage.step move.1 move.2),
        moment.move.concerns? moment.stage.hub ≠ some id :=
      fun moment hm => hother moment (List.mem_cons_of_mem _ hm)
    have hkept : ∀ moment ∈ history rest (stage.step move.1 move.2), moment.stage.Keeps id :=
      fun moment hm => hkeeps moment (List.mem_cons_of_mem _ hm)
    obtain ⟨time', move⟩ := move
    rw [history]
    by_cases hmove : move = .turn id
    · subst hmove
      rw [saidBy_of_turn rfl]
      cases pending with
      | nil =>
        obtain ⟨⟨ended, hended, hover⟩, hsilent⟩ := h.turn_end hnow hrests time'
        obtain ⟨hsaid, hlast⟩ := saidBy_of_over rest hended hover
        rw [hsilent, hsaid]
        exact ⟨rfl, ended, hlast, hover⟩
      | cons message pending =>
        obtain ⟨hafter, hspoken⟩ := h.turn_message hnow hrests time'
        obtain ⟨hsaid, hlast⟩ :=
          ih hafter (hsound.step time' _) (hstreams.step time' _) hothers hkept hrest
        refine ⟨?_, hlast⟩
        rw [settings_step] at hsaid
        rw [List.map_append, hsaid, hspoken, Session.voices]
        cases session.speech? stage.hub.settings.policy message <;> rfl
    · have hid : move.concerns? stage.hub ≠ some id := hother _ List.mem_cons_self
      have hafter := h.of_other hstreams hmove hid time'
      obtain ⟨hsaid, hlast⟩ :=
        ih hafter (hsound.step time' _) (hstreams.step time' _) hothers hkept hrest
      rw [settings_step] at hsaid
      rw [saidBy_of_other hmove]
      exact ⟨hsaid, hlast⟩

end Stage

/-! ### Under one name -/

namespace Moment

variable {moment : Moment} {log : List Event} {id : SessionId} {d : Delivery}

/-- **Where nobody else holds a name and nobody submits under it, only the session speaks under
it.** -/
theorem turn_of_spoken (h : moment.stage.Sound log) (hd : moment.spoken? = some d)
    (hbefore : moment.stage.Alone d.sender id) (hafter : moment.after.Alone d.sender id)
    (hsubmit : ∀ message, moment.move = .submit message → message.sender ≠ d.sender) :
    moment.move = .turn id := by
  obtain ⟨stage, time, move⟩ := moment
  dsimp only at h hbefore hsubmit ⊢
  cases move with
  | submit message =>
    unfold spoken? at hd
    dsimp only at hd
    split at hd
    · cases hd
      exact absurd rfl (hsubmit message rfl)
    · cases hd
  | turn other =>
    obtain ⟨session, message, speech, hsession, hover, hnext, hspeech, rfl⟩ := heard_of_spoken hd
    have hfound : session.found? stage.hub.store = some (.message message) := by
      rw [← Session.fst_run_nextEvent time, hnext]
    have hsound : (stage.step time (.turn other)).Sound (log ++ stage.trace time (.turn other)) :=
      h.step time _
    unfold Session.speech? at hspeech
    split at hspeech
    · -- a first message, whose sender the session holds afterwards
      rename_i hs _
      cases hspeech
      obtain ⟨hgreeted, hbinds, -⟩ :
          (stage.step time (.turn other)).hub.session? other = _ ∧
            (stage.step time (.turn other)).hub.store.Binds message.sender session.endpoint ∧ _ :=
        Stage.greeted hsession hfound h hs
      obtain ⟨own, hown, heq⟩ := hafter _ hbinds
      rw [hsound.session_unique hown hgreeted heq.symm]
    · -- a later one, under the name that the session holds already
      rename_i name hs
      cases hspeech
      have hopen : ¬stage.hub.store.Closed session.endpoint := (Session.open_of_found hfound).2
      have hnote : Note.held name session.endpoint ∈ stage.notes := by
        refine Stage.mem_notes.2 (.inl ⟨session, Stage.mem_sessions hsession, ?_⟩)
        rw [Session.note, hs]
      have hreg : Registered log name session.endpoint := h.books.sound _ hnote
      have hbinds : stage.hub.store.Binds name session.endpoint :=
        (h.closed_or_binds hreg).resolve_left hopen
      obtain ⟨own, hown, heq⟩ := hbefore _ hbinds
      rw [h.session_unique hown hsession heq.symm]
    · cases hspeech
  | _ => cases hd

end Moment

/-- In a run in which nobody but the session holds a name and nobody submits under it, what is
spoken under the name is what the session says under it. -/
theorem spoken_under {name : Name} {id : SessionId} (moves : List (Timestamp × Move))
    {stage : Stage} {log : List Event} (h : stage.Sound log)
    (halone : ∀ moment ∈ history moves stage,
      moment.stage.Alone name id ∧ moment.after.Alone name id)
    (hsubmit : ∀ moment ∈ history moves stage, ∀ message,
      moment.move = .submit message → message.sender ≠ name) :
    ((history moves stage).filterMap Moment.spoken?).filter (·.sender = name) =
      (saidBy id (history moves stage)).filter (·.sender = name) := by
  induction moves generalizing stage log with
  | nil => rfl
  | cons move rest ih =>
    obtain ⟨time, move⟩ := move
    have hrest := ih (h.step time move)
      (fun moment hm => halone moment (List.mem_cons_of_mem _ hm))
      (fun moment hm => hsubmit moment (List.mem_cons_of_mem _ hm))
    obtain ⟨hbefore, hafter⟩ := halone ⟨stage, time, move⟩ List.mem_cons_self
    have hnever := hsubmit ⟨stage, time, move⟩ List.mem_cons_self
    rw [history]
    by_cases hmove : move = .turn id
    · rw [saidBy_of_turn hmove, List.filter_append, ← hrest]
      cases hd : Moment.spoken? ⟨stage, time, move⟩ with
      | none =>
        rw [List.filterMap_cons_none hd]
        rfl
      | some d =>
        rw [List.filterMap_cons_some hd, ← List.singleton_append, List.filter_append]
        rfl
    · rw [saidBy_of_other hmove, ← hrest]
      cases hd : Moment.spoken? ⟨stage, time, move⟩ with
      | none => rw [List.filterMap_cons_none hd]
      | some d =>
        have hne : d.sender ≠ name := by
          rintro rfl
          exact hmove (Moment.turn_of_spoken h hd hbefore hafter hnever)
        rw [List.filterMap_cons_some hd, List.filter_cons_of_neg (by simp [hne])]

end BroadcastChat
