/-
# After the hub has stopped

Once the hub was shut down it stays still: the registry stays empty, for
whoever would register looks at the stop signal first, and so nobody delivers
anything. A session that still runs finds the stop signal before anything else,
so its next turn ends it as cancelled and leaves on its client's stream whatever
is there. What an endpoint accepted before the stop is still read in order, and
then its stream ends, for everybody who was bound is closed and nobody but a
session that has not ended waits for that.

Key definitions: `Stage.Still`, `Stage.Terminal`.
Key theorems: `Moment.kinds_of_still`, `Stage.Still.step`,
`Stage.Still.shutDown_eq`, `Stage.Still.turn_of_running`,
`Stage.final_of_still`, `shutdown_terminal`.
-/
import BroadcastChat.Proofs.Coherence
import BroadcastChat.Proofs.Waits

namespace BroadcastChat

namespace Program

variable {α : Type} {p : Program α} {time : Timestamp} {store : Store}

/-- An empty registry stays empty while nobody registers. -/
theorem registry_run_of_empty (he : store.registry = .empty)
    (h : registrations (p.trace time store) = []) : (p.run time store).2.registry = .empty := by
  refine Registry.eq_empty_of_lookup fun name => ?_
  cases hl : (p.run time store).2.registry.lookup name with
  | none => rfl
  | some e =>
    rcases binds_of_run (n := name) (e := e) hl with hb | hr
    · rw [Store.Binds, he] at hb
      cases hb
    · rw [Registered, h] at hr
      cases hr

theorem submit_empty (time : Timestamp) (he : store.registry = .empty) (message : Message) :
    (submit message).run time store = (.error ⟨message.sender.text⟩, store) ∧
      (submit message).trace time store = [⟨.lookup message.sender, none⟩] := by
  have hlook : (Action.lookup message.sender).perform time store = (none, store) := by
    simp only [Action.perform, he, Registry.lookup_empty]
  refine ⟨?_, ?_⟩
  · rw [submit, lookup, run_act_bind, hlook]
    rfl
  · rw [submit, lookup, trace_act_bind, hlook]
    rfl

/-- Stopping a hub that has stopped and on which nobody is bound changes nothing. -/
theorem shutDown_again (time : Timestamp) (hs : store.stopped = true)
    (he : store.registry = .empty) : (shutDown.run time store).2 = store := by
  obtain ⟨endpoints, inbounds, registry, stopped⟩ := store
  dsimp only at hs he
  subst hs
  subst he
  rfl

end Program

/-! ### A hub that is still -/

/-- The hub has stopped and nobody is bound. -/
structure Stage.Still (stage : Stage) : Prop where
  stopped : stage.hub.store.stopped = true
  empty : stage.hub.store.registry = .empty

namespace Moment

variable {moment : Moment}

theorem kinds_of_still (h : moment.stage.Still) :
    OfKinds [.create, .remove, .drain, .close, .drop, .stop, .other] moment.trace := by
  have hnil : OfKinds [.create, .remove, .drain, .close, .drop, .stop, .other] [] :=
    fun _ hm => absurd hm List.not_mem_nil
  obtain ⟨stage, time, move⟩ := moment
  have hstopped : stage.hub.store.stopped = true := h.stopped
  have hempty : stage.hub.store.registry = .empty := h.empty
  cases move with
  | submit message =>
    rw [(isRun_submit stage time message).trace_eq, (Program.submit_empty time hempty message).2]
    intro event hm
    rw [List.mem_singleton.1 hm]
    simp
  | openListener name =>
    rw [(isRun_openListener stage time name).trace_eq,
      (Program.openListener_stopped time hstopped _ name).2]
    intro event hm
    rcases List.mem_cons.1 hm with rfl | hm
    · simp
    · exact ((Program.within_closedListener name).ofKinds.mono (by decide)) event hm
  | letGo listener =>
    simp only [trace, Stage.trace]
    split
    · exact (Program.within_letGo listener).ofKinds.mono (by decide)
    · exact hnil
  | openSession => exact (Session.within_start _ _).ofKinds.mono (by decide)
  | turn id =>
    cases hheard : stage.hub.heard? time id with
    | none =>
      simp only [trace, Stage.trace, Hub.turn_of_not_heard? hheard]
      exact hnil
    | some event =>
      obtain ⟨session, hsession, hover, hnext⟩ := Hub.session_of_heard? hheard
      rw [(turn_of_event hsession hover hnext).1]
      rw [(Session.nextEvent_stopped time hstopped).1] at hnext
      cases hnext
      refine OfKinds.append ?_ ?_
      · rw [(Session.nextEvent_stopped time hstopped).2]
        intro event hm
        rw [List.mem_singleton.1 hm]
        simp
      · exact (Session.within_handle_ending _ session .cancelled).ofKinds.mono (by decide)
  | dropOutbound id =>
    simp only [trace, Stage.trace]
    split
    · exact hnil
    · intro event hm
      cases List.mem_singleton.1 hm
      simp
  | shutDown => exact Program.within_shutDown.ofKinds.mono (by decide)
  | arrive id arrival => exact hnil
  | endInput id => exact hnil
  | read id => exact hnil

end Moment

namespace Stage

variable {stage : Stage} {log : List Event}

/-- The shutdown leaves the hub still. -/
theorem still_shutDown (stage : Stage) (time : Timestamp) : (stage.step time .shutDown).Still where
  stopped := Program.stopped_shutDown
  empty := Program.registry_shutDown

namespace Still

variable (h : stage.Still)
include h

/-- **A hub that is still stays still**, in every move. -/
theorem step (time : Timestamp) (move : Move) : (stage.step time move).Still := by
  obtain ⟨α, p, before, hrun⟩ := Moment.exists_run ⟨stage, time, move⟩
  have hkinds : OfKinds [.create, .remove, .drain, .close, .drop, .stop, .other]
      (p.trace time before) := by
    rw [← hrun.trace_eq]
    exact Moment.kinds_of_still h
  have hstore : (stage.step time move).hub.store = (p.run time before).2 := hrun.store_eq
  refine ⟨?_, ?_⟩
  · rw [hstore]
    exact Program.stopped_run (hrun.alike.stopped_eq.trans h.stopped)
  · rw [hstore]
    exact Program.registry_run_of_empty (hrun.alike.registry_eq.trans h.empty)
      (hkinds.registrations_eq (by decide))

theorem run (moves : List (Timestamp × Move)) : (stage.run moves).Still :=
  invariant_run (fun _ time move hs => hs.step time move) moves h

theorem of_mem {moment : Moment} {moves : List (Timestamp × Move)}
    (hm : moment ∈ history moves stage) : moment.stage.Still := by
  obtain ⟨before, rest, _, hstage⟩ := exists_split_of_mem hm
  rw [hstage]
  exact h.run before

theorem shutDown_eq (time : Timestamp) : stage.step time .shutDown = stage := by
  have hstore : (Program.shutDown.run time stage.hub.store).2 = stage.hub.store :=
    Program.shutDown_again time h.stopped h.empty
  change (⟨{ stage.hub with store := (Program.shutDown.run time stage.hub.store).2 },
    stage.listeners⟩ : Stage) = stage
  rw [hstore]

/-- On a hub that is still nobody accepts anything. -/
theorem accepted_eq (e : EndpointId) (moves : List (Timestamp × Move)) :
    accepted (logOf (history moves stage)) e = [] := by
  induction moves generalizing stage with
  | nil => rfl
  | cons move rest ih =>
    have hnow : accepted (Moment.trace ⟨stage, move.1, move.2⟩) e = [] :=
      (Moment.kinds_of_still h).accepted_eq (by decide) e
    rw [history, logOf_cons, accepted_append, hnow, List.nil_append]
    exact ih (h.step move.1 move.2)

theorem turn_of_running (hsound : stage.Sound log) {id : SessionId} {session : Session}
    (hsession : stage.hub.session? id = some session) (hover : session.isOver = false)
    (time : Timestamp) : (stage.step time (.turn id)).hub.session? id =
      some { session with state := .closed .cancelled } := by
  have hnext : (session.nextEvent.run time stage.hub.store).1 = some (.ending .cancelled) := by
    rw [(Session.nextEvent_stopped time h.stopped).1]
  have hrests := hsound.rests session (mem_sessions hsession)
  obtain ⟨_, _, hafter⟩ := Moment.turn_of_event hsession hover hnext
  rw [Session.run_handle hrests hover] at hafter
  refine hafter.trans ?_
  cases hs : session.state with
  | awaitingHello => rfl
  | active name => rfl
  | closing name outcome => exact absurd hs (hrests name outcome)
  | closed outcome =>
    rw [Session.isOver, hs] at hover
    cases hover

theorem read_opened (time : Timestamp) (name : Name) :
    ((stage.hub.openListener time name).2.read
      (stage.hub.openListener time name).1.endpoint).1 = .ended := by
  have hrun : stage.hub.openListener time name =
      stage.hub.perform time (Program.closedListener name) := by
    rw [Hub.openListener, Hub.perform, Hub.perform,
      (Program.openListener_stopped time h.stopped _ name).1]
  have hhas : (stage.hub.store.newEndpoint 1).2.Has (stage.hub.store.newEndpoint 1).1 :=
    Store.has_newEndpoint.2 (.inr rfl)
  have hclosed : (stage.hub.perform time (Program.closedListener name)).2.store.endpoint
      (stage.hub.store.newEndpoint 1).1 = (Endpoint.new 1).close := by
    refine (Store.endpoint_update_self Endpoint.close hhas).trans ?_
    rw [Store.endpoint_newEndpoint_self]
  rw [hrun]
  change ((stage.hub.perform time (Program.closedListener name)).2.store.endpoint
    (stage.hub.store.newEndpoint 1).1).read.1 = .ended
  rw [hclosed]
  rfl

end Still

/-! ### Sessions after the stop -/

theorem session_run_of_over {id : SessionId} {session : Session}
    (h : stage.hub.session? id = some session) (hover : session.isOver = true)
    (moves : List (Timestamp × Move)) : (stage.run moves).hub.session? id = some session :=
  invariant_run (motive := fun stage => stage.hub.session? id = some session)
    (fun _ time move hs => session_step_of_over hs hover time move) moves h

/-- Whoever ends on a hub that is still was cancelled. -/
theorem cancelled_of_still (h : stage.Still) (hsound : stage.Sound log) {id : SessionId}
    (hfresh : stage.hub.outcome? id = none) (moves : List (Timestamp × Move)) {session : Session}
    (hsession : (stage.run moves).hub.session? id = some session)
    (hover : session.isOver = true) : session.state = .closed .cancelled := by
  refine (invariant_run (motive := fun stage => stage.Still ∧ (∃ log, stage.Sound log) ∧
    ∀ session, stage.hub.session? id = some session → session.isOver = true →
      session.state = .closed .cancelled) ?_ moves
        ⟨h, ⟨log, hsound⟩, ?_⟩).2.2 session hsession hover
  · rintro stage time move ⟨h, ⟨log, hsound⟩, hall⟩
    refine ⟨h.step time move, ⟨_, hsound.step time move⟩, fun session hafter hover => ?_⟩
    cases hbefore : stage.hub.session? id with
    | none =>
      have hnew := awaiting_of_new hbefore hafter
      rw [Session.isOver, hnew] at hover
      cases hover
    | some old =>
      by_cases hold : old.isOver = true
      · rw [session_step_of_over hbefore hold time move] at hafter
        cases hafter
        exact hall _ hbefore hold
      · have hrunning : old.isOver = false := by simpa using hold
        by_cases hmove : move = .turn id
        · subst hmove
          rw [h.turn_of_running hsound hbefore hrunning time] at hafter
          cases hafter
          rfl
        · cases hafter.symm.trans (session_step_of_ne hbefore time hmove)
          exact absurd hover hold
  · intro session hs hover
    rw [Hub.outcome?, hs] at hfresh
    rw [Session.isOver, Option.isSome_iff_exists] at hover
    obtain ⟨outcome, houtcome⟩ := hover
    rw [Option.bind_some, houtcome] at hfresh
    cases hfresh

/-- **Every session that has not ended when the hub is still, or is started later, ends as
cancelled** by the first turn that it takes. -/
theorem outcome_of_still (h : stage.Still) (hsound : stage.Sound log) {id : SessionId}
    (hfresh : stage.hub.outcome? id = none) (moves : List (Timestamp × Move)) {session : Session}
    (hsession : (stage.run moves).hub.session? id = some session) (time : Timestamp)
    (more : List (Timestamp × Move)) :
    ((((stage.run moves).step time (.turn id)).run more).hub.outcome? id) = some .cancelled := by
  have hended : ((stage.run moves).step time (.turn id)).hub.session? id =
      some { session with state := .closed .cancelled } := by
    by_cases hover : session.isOver = true
    · have hcancelled := cancelled_of_still h hsound hfresh moves hsession hover
      rw [session_step_of_over hsession hover, ← hcancelled]
    · exact (h.run moves).turn_of_running (hsound.run moves) hsession (by simpa using hover) time
  rw [Hub.outcome?, session_run_of_over hended rfl more]
  rfl

/-! ### Streams after the stop -/

/-- When its session has ended, a stream that is kept ends with what is queued. -/
theorem final_of_still (h : stage.Still) (hsound : stage.Sound log) (hawaited : stage.Awaited)
    {e : EndpointId} (hh : stage.hub.store.Has e)
    (hkept : (stage.hub.store.endpoint e).dropped = false)
    (hover : ∀ id session, stage.hub.session? id = some session → session.endpoint = e →
      session.isOver = true) : (stage.hub.store.endpoint e).isFinal = true := by
  have hwaits : (stage.hub.store.endpoint e).waits = 0 := by
    by_contra hne
    obtain ⟨id, session, hs, hend, hrunning⟩ := hawaited.running e hne
    rw [hover id session hs hend] at hrunning
    cases hrunning
  have hclosed : stage.hub.store.Closed e := by
    by_contra hopen
    rcases hsound.books.accounted hh hopen with ⟨n, hb⟩ | hm | hm
    · rw [Store.Binds, h.empty] at hb
      cases hb
    · rcases mem_notes.1 hm with ⟨session, hmem, hnote⟩ | ⟨listener, _, hnote⟩
      · -- its session still waits for its client
        unfold Session.note at hnote
        split at hnote
        · rename_i hs
          cases hnote
          obtain ⟨index, hget⟩ := Array.mem_iff_getElem?.1 (Array.mem_toList_iff.1 hmem)
          have hended := hover ⟨index⟩ session hget rfl
          rw [Session.isOver, hs] at hended
          cases hended
        · cases hnote
        · cases hnote
        · cases hnote
      · unfold Listener.note at hnote
        split at hnote <;> cases hnote
    · cases owned_of_mem_notes hm
  have hshut : (stage.hub.store.endpoint e).shut = true := by
    rw [Store.Closed, Endpoint.isClosed, hkept, Bool.or_false] at hclosed
    exact hclosed
  rw [Endpoint.isFinal, hshut, hwaits]
  rfl

end Stage

/-! ### Reading -/

namespace Endpoint

variable {endpoint : Endpoint}

theorem read_cons {delivery : Delivery} {rest : List Delivery} (hkept : endpoint.dropped = false)
    (hu : endpoint.unread = delivery :: rest) : endpoint.read.1 = .delivery delivery := by
  rw [fst_read, if_neg (by simp [hkept]), hu]

theorem read_nil (hkept : endpoint.dropped = false) (hu : endpoint.unread = [])
    (hfinal : endpoint.isFinal = true) : endpoint.read.1 = .ended := by
  rw [fst_read, if_neg (by simp [hkept]), hu]
  exact if_pos hfinal

end Endpoint

/-- **What is true at any time after a shutdown.** `past` is what happened up to the shutdown and
`since` what happened from then on. -/
structure Stage.Terminal (before : Stage) (past since : List Moment) (later : Stage) : Prop where
  isShutDown : later.hub.isShutDown = true
  names_eq : later.hub.names = []
  /-- Nobody accepts anything more. -/
  accepted_eq : ∀ e, accepted (logOf since) e = []
  submit_eq : ∀ time message, (later.hub.submit time message).1 = .error ⟨message.sender.text⟩
  /-- A listener that is opened has nothing to read. -/
  read_opened : ∀ time name, ((later.hub.openListener time name).2.read
    (later.hub.openListener time name).1.endpoint).1 = .ended
  /-- A session that had not ended, or is started later, ends as cancelled by the first turn that it
  takes. -/
  cancelled : ∀ id session, later.hub.session? id = some session →
    before.hub.outcome? id = none → ∀ time further,
    ((later.step time (.turn id)).run further).hub.outcome? id = some .cancelled
  /-- No stream of a client is read any more. -/
  arrivals_prefix : ∀ i,
    (before.hub.store.inbound i).arrivals <+: (later.hub.store.inbound i).arrivals
  /-- Another shutdown changes nothing. -/
  shutDown_eq : ∀ time, later.step time .shutDown = later
  /-- What an endpoint accepted before is what was read from it and what is unread, in order. -/
  read_out : ∀ e, readFrom e past ++ readFrom e since ++ (later.hub.store.endpoint e).unread =
    accepted (logOf past) e
  /-- As long as its stream is kept, a read gives the oldest unread delivery, -/
  read_delivery : ∀ e, later.hub.store.Has e → (later.hub.store.endpoint e).dropped = false →
    ∀ d rest, (later.hub.store.endpoint e).unread = d :: rest →
    (later.hub.read e).1 = .delivery d
  /-- and the end of the stream when there is none and the endpoint's session, if any, has ended. -/
  read_ended : ∀ e, later.hub.store.Has e → (later.hub.store.endpoint e).dropped = false →
    (later.hub.store.endpoint e).unread = [] →
    (∀ id session, later.hub.session? id = some session → session.endpoint = e →
      session.isOver = true) → (later.hub.read e).1 = .ended

/-- Nobody accepts anything from the shutdown on. -/
theorem Stage.accepted_since (stage : Stage) (stopTime : Timestamp)
    (more : List (Timestamp × Move)) (e : EndpointId) :
    accepted (logOf (history ((stopTime, .shutDown) :: more) stage)) e = [] := by
  have hsilent : accepted (stage.trace stopTime .shutDown) e = [] :=
    Program.within_shutDown.ofKinds.accepted_eq (by decide) e
  rw [history, logOf_cons, accepted_append, (Stage.still_shutDown stage stopTime).accepted_eq]
  exact (List.append_nil _).trans hsilent

theorem Stage.not_reads_since (stage : Stage) (stopTime : Timestamp)
    (more : List (Timestamp × Move)) (i : InboundId) :
    ∀ moment ∈ history ((stopTime, .shutDown) :: more) stage, ¬moment.Reads i := by
  intro moment hm hread
  rcases List.mem_cons.1 hm with rfl | hm
  · obtain ⟨id, session, hmove, _⟩ := Moment.reader_of_receive hread
    cases hmove
  · obtain ⟨_, _, _, _, _, hrunning, _⟩ := Moment.reader_of_receive hread
    rw [((Stage.still_shutDown stage stopTime).of_mem hm).stopped] at hrunning
    cases hrunning

/-- **The shutdown is terminal**, whatever comes next. -/
theorem shutdown_terminal (settings : HubSettings) (moves : List (Timestamp × Move))
    (stopTime : Timestamp) (more : List (Timestamp × Move)) :
    let before := (Stage.new settings).run moves
    let later := (before.step stopTime .shutDown).run more
    before.Terminal (history moves (.new settings))
      (history ((stopTime, .shutDown) :: more) before) later := by
  intro before later
  have hsound : before.Sound (logOf (history moves (.new settings))) :=
    Stage.sound_run settings moves
  have hstill : (before.step stopTime .shutDown).Still := Stage.still_shutDown before stopTime
  have hstopped := hsound.step stopTime .shutDown
  have hlater : later.Still := hstill.run more
  have hafter := hstopped.run more
  have hawaited : later.Awaited := by
    have hrun : later = (Stage.new settings).run (moves ++ (stopTime, .shutDown) :: more) := by
      rw [Stage.run_append]
      rfl
    rw [hrun]
    exact Stage.awaited_run settings _
  constructor
  case isShutDown => exact hlater.stopped
  case names_eq =>
    rw [Hub.names, hlater.empty]
    rfl
  case accepted_eq => exact before.accepted_since stopTime more
  case submit_eq =>
    intro time message
    exact congrArg Prod.fst (Program.submit_empty time hlater.empty message).1
  case read_opened => exact hlater.read_opened
  case cancelled =>
    intro id session hsession hfresh time further
    exact Stage.outcome_of_still hstill hstopped hfresh more hsession time further
  case arrivals_prefix =>
    intro i
    exact Stage.arrivals_run ((stopTime, .shutDown) :: more)
      (before.not_reads_since stopTime more i)
  case shutDown_eq => exact hlater.shutDown_eq
  case read_out =>
    intro e
    have hbefore := readFrom_append_unread moves (.new settings) e
    have hunread := readFrom_append_unread ((stopTime, .shutDown) :: more) before e
    rw [before.accepted_since, List.append_nil] at hunread
    rw [List.append_assoc]
    exact (congrArg _ hunread).trans hbefore
  case read_delivery =>
    intro e hh hkept d rest hu
    exact Endpoint.read_cons hkept hu
  case read_ended =>
    intro e hh hkept hu hover
    exact Endpoint.read_nil hkept hu (Stage.final_of_still hlater hafter hawaited hh hkept hover)

/-- When the hub stops while a message of Bob's is waiting, his session ends as cancelled, and
Alice's listener still reads his greeting. -/
theorem shutdown_terminal_waiting :
    let stopped := ((Stage.new {}).run (Sample.superseding.take 5)).step ⟨5⟩ .shutDown
    (stopped.step ⟨6⟩ (.turn ⟨0⟩)).hub.outcome? ⟨0⟩ = some .cancelled ∧
      (stopped.hub.read ⟨0⟩).1 = .delivery ⟨⟨Sample.bob, .empty⟩, ⟨3⟩⟩ := by
  intro stopped
  have hterminal := shutdown_terminal {} (Sample.superseding.take 5) ⟨5⟩ []
  constructor
  · exact hterminal.cancelled ⟨0⟩ ⟨⟨1⟩, ⟨0⟩, .active Sample.bob⟩ (by decide) (by decide) ⟨6⟩ []
  · exact hterminal.read_delivery ⟨0⟩ (by decide) (by decide) ⟨⟨Sample.bob, .empty⟩, ⟨3⟩⟩ []
      (by decide)

end BroadcastChat
