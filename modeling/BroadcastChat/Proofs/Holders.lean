/-
# Only the holder of a name speaks under it

When a session broadcasts, its endpoint is open, for otherwise it would have
found that before its client's message; and an endpoint that was registered
and is open is the one that its name is bound to (`Stage.Sound.closed_or_binds`).
So whoever was superseded, dropped or stopped does not speak any more, however
much its client has sent: from the step in which its endpoint is closed, a
session reads nothing and broadcasts nothing.

Key definitions: `Store.after`, `Action.Speaks`, `Moment.Voice`.
Key theorems: `Moment.exists_voice`, `Moment.Voice.of_snapshot`,
`only_holder_speaks`.
-/
import BroadcastChat.Proofs.Inflow
import BroadcastChat.Proofs.Delivery

namespace BroadcastChat

/-- The store when all this was done to it. -/
def Store.after (time : Timestamp) (store : Store) (log : List Event) : Store :=
  log.foldl (fun store event => (event.action.perform time store).2) store

theorem Store.after_append (time : Timestamp) (store : Store) (log more : List Event) :
    store.after time (log ++ more) = (store.after time log).after time more :=
  List.foldl_append

theorem Program.after_trace {α : Type} (time : Timestamp) (p : Program α) (store : Store) :
    store.after time (p.trace time store) = (p.run time store).2 := by
  induction p generalizing store with
  | done value => rfl
  | step action next ih => exact ih _ _

theorem Store.closed_after {time : Timestamp} {store : Store} {e : EndpointId} {log : List Event}
    (hh : store.Has e) (hc : store.Closed e) : (store.after time log).Closed e := by
  induction log generalizing store with
  | nil => exact hc
  | cons event rest ih => exact ih (Action.has_mono hh) (Action.closed_mono hh hc)

/-! ### Actions by which somebody speaks -/

/-- Whether the action lists the recipients of a broadcast or hands something to one of them. -/
def Action.Speaks : Action → Prop
  | .snapshotExcept _ | .deliver _ _ => True
  | _ => False

namespace Program

variable {time : Timestamp} {store : Store}

theorem only_handOut (delivery : Delivery) (report : Report) (recipients : List Binding) :
    (handOut delivery report recipients).Only fun action =>
      (∀ n, action ≠ .snapshotExcept n) ∧ ∀ e d, action = .deliver e d → d = delivery := by
  induction recipients generalizing report with
  | nil => exact only_pure
  | cons b rest ih =>
    obtain ⟨name, endpoint⟩ := b
    refine only_act_bind ⟨by simp, fun e d heq => ?_⟩ fun answer => ?_
    · cases heq
      rfl
    · cases answer with
      | ok u => exact ih _
      | error refusal =>
        refine only_act_bind ⟨by simp, by simp⟩ fun _ => ?_
        exact only_act_bind ⟨by simp, by simp⟩ fun _ => ih _

theorem only_takeOver (name : Name) (endpoint : EndpointId) :
    (takeOver name endpoint).Only fun action => ¬action.Speaks := by
  refine (within_takeOver name endpoint).only fun action hm hspeaks => ?_
  cases action <;> first | exact hspeaks | simp at hm

theorem open_takeOver {name : Name} {endpoint : EndpointId} (hh : store.Has endpoint)
    (hc : ¬store.Closed endpoint) :
    ¬((takeOver name endpoint).run time store).2.Closed endpoint := by
  have hregistered :
      ¬((Action.register name endpoint).perform time store).2.Closed endpoint :=
    Action.open_perform hh hc (by simp) (by simp)
  have hanswer : ((Action.register name endpoint).perform time store).1 =
      (store.registry.lookup name).filter (· ≠ endpoint) := rfl
  rw [takeOver, register, run_act_bind, hanswer]
  cases hsuperseded : (store.registry.lookup name).filter (· ≠ endpoint) with
  | none => exact hregistered
  | some previous =>
    have hne : previous ≠ endpoint := by simpa using (Option.filter_eq_some_iff.1 hsuperseded).2
    have hother : Action.close previous ≠ .close endpoint := by simpa using hne
    dsimp only
    rw [close, run_act_bind, run_pure]
    exact Action.open_perform (Action.has_mono hh) hregistered hother (by simp)

end Program

theorem Session.only_looks_not_speaks (session : Session) :
    session.nextEvent.Only fun action => ¬action.Speaks := by
  refine session.only_nextEvent.mono fun action hlooks hspeaks => ?_
  rcases hlooks with rfl | rfl | rfl <;> exact hspeaks

/-- A session that ends says nothing about it. -/
theorem Session.only_deeds_of_ending (policy : GreetingPolicy) (session : Session)
    (ending : Ending) : (carryOut session.endpoint
      (deeds policy session.state (.ending ending))).Only fun action => ¬action.Speaks := by
  have hfinish : (Deed.finish.program session.endpoint).Only fun action => ¬action.Speaks :=
    Program.only_act_bind id fun _ => ⟨id, fun _ => trivial⟩
  cases session.state with
  | awaitingHello => exact hfinish.bind fun _ => Program.only_pure
  | active name =>
    have hrelease : ((Deed.release name).program session.endpoint).Only
        fun action => ¬action.Speaks := Program.only_act_bind id fun _ => Program.only_pure
    exact hrelease.bind fun _ => hfinish.bind fun _ => Program.only_pure
  | closing name outcome => exact Program.only_pure
  | closed outcome => exact Program.only_pure

theorem Stage.Sound.has_endpoint {stage : Stage} {log : List Event} {id : SessionId}
    {session : Session} (h : stage.Sound log) (hsession : stage.hub.session? id = some session) :
    stage.hub.store.Has session.endpoint :=
  h.books.has_owned (Stage.mem_notes.2 (.inl ⟨session, Stage.mem_sessions hsession, rfl⟩))
    session.owned_note

/-! ### The voice of a moment -/

namespace Moment

variable {moment : Moment} {log : List Event} {id : SessionId} {session : Session}

/-- The moment is the turn of a session that ends it by a broadcast of `message`; before that the
session said nothing, and then it is the holder of the message's sender. -/
structure Voice (moment : Moment) (id : SessionId) (session : Session) (message : Message)
    (before : List Event) : Prop where
  silent : ∀ event ∈ before, ¬event.action.Speaks
  trace_eq : moment.trace = before ++ (Program.broadcast message).trace moment.time
    (moment.stage.hub.store.after moment.time before)
  state_eq : moment.after.hub.session? id = some { session with state := .active message.sender }
  name_eq : ∀ name, session.state = .active name → message.sender = name
  binds : (moment.stage.hub.store.after moment.time before).Binds message.sender session.endpoint
  isOpen : ¬(moment.stage.hub.store.after moment.time before).Closed session.endpoint

section

variable {stage : Stage} {time : Timestamp} {message : Message}
  (h : stage.Sound log) (hsession : stage.hub.session? id = some session)
  (hnext : (session.nextEvent.run time stage.hub.store).1 = some (.message message))
include h hsession hnext

/-- A session that has heard a message is not over, and its endpoint is open when it has. -/
theorem open_of_heard (hover : session.isOver = false) :
    ¬(session.nextEvent.run time stage.hub.store).2.Closed session.endpoint ∧
      trace ⟨stage, time, .turn id⟩ = session.nextEvent.trace time stage.hub.store ++
        (Session.carryOut session.endpoint
          (Session.deeds stage.hub.settings.policy session.state (.message message))).trace time
          (session.nextEvent.run time stage.hub.store).2 ∧
      (after ⟨stage, time, .turn id⟩).hub.session? id =
        some { session with state := session.state.next (.message message) } := by
  have hrests := h.rests session (Stage.mem_sessions hsession)
  obtain ⟨htrace, _, hafter⟩ := turn_of_event hsession hover hnext
  rw [Session.run_handle hrests hover] at hafter
  rw [Session.trace_handle hrests hover] at htrace
  have hopen : stage.hub.store.stopped = false ∧ ¬stage.hub.store.Closed session.endpoint :=
    Session.open_of_not_ending fun ending => by rw [hnext]; simp
  have halike := session.within_nextEvent.alike time stage.hub.store
  exact ⟨fun hc => hopen.2 (halike.closed_iff.1 hc), htrace, hafter⟩

theorem voice_of_hello (hs : session.state = .awaitingHello)
    (hpolicy : stage.hub.settings.policy = .broadcast) :
    Voice ⟨stage, time, .turn id⟩ id session message
      (session.nextEvent.trace time stage.hub.store ++
        (Program.takeOver message.sender session.endpoint).trace time
          (session.nextEvent.run time stage.hub.store).2) := by
  obtain ⟨hopen, htrace, hafter⟩ :=
    open_of_heard h hsession hnext (by rw [Session.isOver, hs]; rfl)
  rw [hs, hpolicy] at htrace
  rw [hs] at hafter
  have hmid : stage.hub.store.after time (session.nextEvent.trace time stage.hub.store ++
      (Program.takeOver message.sender session.endpoint).trace time
        (session.nextEvent.run time stage.hub.store).2) =
      ((Program.takeOver message.sender session.endpoint).run time
        (session.nextEvent.run time stage.hub.store).2).2 := by
    rw [Store.after_append, Program.after_trace, Program.after_trace]
  refine ⟨?_, ?_, hafter, by simp [hs], ?_, ?_⟩
  · intro event hm
    rcases List.mem_append.1 hm with hm | hm
    · exact session.only_looks_not_speaks.of_mem_trace hm
    · exact (Program.only_takeOver _ _).of_mem_trace hm
  · rw [htrace, hmid]
    simp only [Session.deeds, Session.greeting, Session.carryOut, Session.Deed.program,
      Program.trace_bind, Program.trace_pure, List.append_nil, List.append_assoc]
  · rw [hmid]
    exact Program.binds_takeOver.2 (by rw [if_pos rfl])
  · rw [hmid]
    exact Program.open_takeOver (Store.has_of_open hopen) hopen

/-- A message that is relayed: a session that is active was registered, and who was registered and
is open is bound. -/
theorem voice_of_relayed {name : Name} (hs : session.state = .active name) :
    Voice ⟨stage, time, .turn id⟩ id session (message.sentAs name)
      (session.nextEvent.trace time stage.hub.store) := by
  obtain ⟨hopen, htrace, hafter⟩ :=
    open_of_heard h hsession hnext (by rw [Session.isOver, hs]; rfl)
  rw [hs] at htrace hafter
  have halike := session.within_nextEvent.alike time stage.hub.store
  have hmid : stage.hub.store.after time (session.nextEvent.trace time stage.hub.store) =
      (session.nextEvent.run time stage.hub.store).2 := Program.after_trace _ _ _
  have hnote : Note.held name session.endpoint ∈ stage.notes := by
    refine Stage.mem_notes.2 (.inl ⟨session, Stage.mem_sessions hsession, ?_⟩)
    rw [Session.note, hs]
  have hreg : Registered log name session.endpoint := h.books.sound _ hnote
  refine ⟨fun event hm => session.only_looks_not_speaks.of_mem_trace hm, ?_, hafter, ?_, ?_, ?_⟩
  · rw [htrace, hmid]
    simp only [Session.deeds, Session.carryOut, Session.Deed.program, Program.trace_bind,
      Program.trace_pure, List.append_nil]
  · intro other heq
    rw [hs] at heq
    cases heq
    rfl
  · rw [hmid]
    have hbinds := (h.closed_or_binds hreg).resolve_left fun hc => hopen (halike.closed_iff.2 hc)
    exact halike.binds_iff.2 hbinds
  · rw [hmid]
    exact hopen

end

/-- **Whoever speaks over a session holds the name under which it speaks.** -/
theorem exists_voice (h : moment.stage.Sound log) (hmove : moment.move = .turn id)
    (hsession : moment.stage.hub.session? id = some session)
    (hspeaks : ∃ event ∈ moment.trace, event.action.Speaks) :
    ∃ message before, moment.Voice id session message before := by
  obtain ⟨stage, time, move⟩ := moment
  dsimp only at hmove hsession h
  subst hmove
  obtain ⟨event, hm, hspeaks⟩ := hspeaks
  cases hheard : stage.hub.heard? time id with
  | none =>
    simp only [trace, Stage.trace, Hub.turn_of_not_heard? hheard] at hm
    cases hm
  | some found =>
    obtain ⟨session', hsession', hover, hnext⟩ := Hub.session_of_heard? hheard
    rw [hsession] at hsession'
    cases hsession'
    have hrests := h.rests session (Stage.mem_sessions hsession)
    rw [(turn_of_event hsession hover hnext).1, Session.trace_handle hrests hover,
      List.mem_append] at hm
    have hdeed := hm.resolve_left fun hlook =>
      session.only_looks_not_speaks.of_mem_trace hlook hspeaks
    cases found with
    | ending ending =>
      have hquiet := Session.only_deeds_of_ending stage.hub.settings.policy session ending
      exact absurd hspeaks (hquiet.of_mem_trace hdeed)
    | message message =>
      cases hs : session.state with
      | awaitingHello =>
        cases hpolicy : stage.hub.settings.policy with
        | registerOnly =>
          rw [hs, hpolicy] at hdeed
          have hquiet : (Session.carryOut session.endpoint
              (Session.deeds .registerOnly .awaitingHello (.message message))).Only
              fun action => ¬action.Speaks :=
            (Program.only_takeOver _ _).bind fun _ => Program.only_pure
          exact absurd hspeaks (hquiet.of_mem_trace hdeed)
        | broadcast => exact ⟨_, _, voice_of_hello h hsession hnext hs hpolicy⟩
      | active name => exact ⟨_, _, voice_of_relayed h hsession hnext hs⟩
      | closing name outcome => exact absurd hs (hrests name outcome)
      | closed outcome =>
        rw [Session.isOver, hs] at hover
        cases hover

namespace Voice

variable {message : Message} {before : List Event} (h : moment.Voice id session message before)
include h

theorem of_snapshot {n : Name} {bindings : List Binding} {past rest : List Event}
    (heq : moment.trace = past ++ ⟨.snapshotExcept n, bindings⟩ :: rest) :
    n = message.sender ∧ ∃ stamp, past = before ++ [⟨.now, stamp⟩] := by
  rw [h.trace_eq, Program.trace_broadcast] at heq
  have hsplit := (List.append_assoc before [⟨.now, moment.time⟩] _).trans heq
  rw [List.append_cons_inj_of_notMem] at hsplit
  · obtain ⟨hpast, hevent, _⟩ := hsplit
    cases hevent
    exact ⟨rfl, _, hpast.symm⟩
  · intro hm
    rcases List.mem_append.1 hm with hm | hm
    · exact h.silent _ hm trivial
    · cases List.mem_singleton.1 hm
  · intro hm
    exact ((Program.only_handOut _ _ _).of_mem_trace hm).1 n rfl

/-- What is handed out carries the name of the session. -/
theorem sender_of_deliver {e : EndpointId} {d : Delivery} {event : Event}
    (hm : event ∈ moment.trace) (hevent : event.action = .deliver e d) :
    d.sender = message.sender := by
  rw [h.trace_eq, Program.trace_broadcast] at hm
  rcases List.mem_append.1 hm with hm | hm
  · have hsilent := h.silent event hm
    rw [hevent] at hsilent
    exact absurd trivial hsilent
  · rcases List.mem_append.1 hm with hm | hm
    · simp only [List.mem_cons, List.not_mem_nil, or_false] at hm
      rcases hm with rfl | rfl <;> cases hevent
    · rw [((Program.only_handOut _ _ _).of_mem_trace hm).2 e d hevent]
      rfl

end Voice

/-! ### After the endpoint is closed -/

theorem mute_of_closed (hmove : moment.move = .turn id)
    (hsession : moment.stage.hub.session? id = some session)
    (hc : moment.stage.hub.store.Closed session.endpoint) (h : moment.stage.Sound log) :
    (∀ i, ¬moment.Reads i) ∧ ∀ event ∈ moment.trace, ¬event.action.Speaks := by
  refine ⟨fun i hreads => ?_, fun event hm hspeaks => ?_⟩
  · obtain ⟨id', session', hmove', hsession', _, _, hopen⟩ := reader_of_receive hreads
    rw [hmove] at hmove'
    cases hmove'
    rw [hsession] at hsession'
    cases hsession'
    exact hopen hc
  · obtain ⟨message, before, hvoice⟩ := exists_voice h hmove hsession ⟨event, hm, hspeaks⟩
    exact hvoice.isOpen (Store.closed_after (h.has_endpoint hsession) hc)

end Moment

theorem Stage.closed_run {stage : Stage} {e : EndpointId} (moves : List (Timestamp × Move))
    (hh : stage.hub.store.Has e) (hc : stage.hub.store.Closed e) :
    (stage.run moves).hub.store.Has e ∧ (stage.run moves).hub.store.Closed e :=
  Stage.invariant_run (motive := fun stage => stage.hub.store.Has e ∧ stage.hub.store.Closed e)
    (fun stage time move h => (Moment.closed_after ⟨stage, time, move⟩ h.1 h.2).2) moves ⟨hh, hc⟩

/-- From the stage on at which a session's endpoint is closed, the session reads nothing. -/
theorem Stage.unread_of_closed {stage : Stage} {log : List Event} {id : SessionId}
    {session : Session} (h : stage.Sound log) (hstreams : stage.Streams)
    (hsession : stage.hub.session? id = some session)
    (hc : stage.hub.store.Closed session.endpoint) (more : List (Timestamp × Move)) :
    ∀ moment ∈ history more stage, ¬moment.Reads session.inbound := by
  intro moment hm hreads
  obtain ⟨before, rest, _, hstage⟩ := exists_split_of_mem hm
  obtain ⟨id', reader, _, hreader, hinbound, _, hopen⟩ := Moment.reader_of_receive hreads
  obtain ⟨state, hlater⟩ := Stage.session_run hsession before
  rw [hstage] at hreader hopen
  -- the stream is this session's own
  have hid : id' = id := (Stage.streams_run before hstreams).unique hreader hlater hinbound
  rw [hid, hlater] at hreader
  cases hreader
  exact hopen (Stage.closed_run before (h.has_endpoint hsession) hc).2

/-- **Only the holder of a name speaks under it.** In every run of a hub, when a session lists the
recipients of a broadcast, the sender is the name under which the session is active from then on and
was before unless it was just named; its endpoint is open, and it is the one that the registry binds
to that name. Whatever it hands out carries that name. From the stage on at which a session's
endpoint is closed, nothing of what its client has sent is read any more, and the session reads
nothing and broadcasts nothing in its turns. -/
theorem only_holder_speaks (settings : HubSettings) (moves : List (Timestamp × Move)) :
    (∀ moment ∈ history moves (.new settings), ∀ id session, moment.move = .turn id →
      moment.stage.hub.session? id = some session →
      (∀ past n bindings rest, moment.trace = past ++ ⟨.snapshotExcept n, bindings⟩ :: rest →
        moment.after.hub.session? id = some { session with state := .active n } ∧
          (∀ name, session.state = .active name → n = name) ∧
          ¬(moment.stage.hub.store.after moment.time past).Closed session.endpoint ∧
          (moment.stage.hub.store.after moment.time past).Binds n session.endpoint) ∧
      ∀ event ∈ moment.trace, ∀ e d, event.action = .deliver e d →
        moment.after.hub.session? id = some { session with state := .active d.sender }) ∧
    ∀ id session, ((Stage.new settings).run moves).hub.session? id = some session →
      ((Stage.new settings).run moves).hub.store.Closed session.endpoint →
      ∀ more : List (Timestamp × Move),
        (((Stage.new settings).run moves).hub.store.inbound session.inbound).arrivals <+:
          ((((Stage.new settings).run moves).run more).hub.store.inbound
            session.inbound).arrivals ∧
        ∀ moment ∈ history more ((Stage.new settings).run moves), moment.move = .turn id →
          ∀ event ∈ moment.trace, ¬event.action.Speaks ∧ ∀ i, event.action ≠ .receive i := by
  refine ⟨fun moment hm id session hmove hsession => ?_, fun id session hsession hc more => ?_⟩
  · obtain ⟨before, rest, _, hstage⟩ := exists_split_of_mem hm
    have hsound : moment.stage.Sound (logOf (history before (.new settings))) := by
      rw [hstage]
      exact Stage.sound_run settings before
    refine ⟨fun past n bindings rest htrace => ?_, fun event hm e d hevent => ?_⟩
    · have hmem : (⟨.snapshotExcept n, bindings⟩ : Event) ∈ moment.trace := by
        rw [htrace]
        exact List.mem_append_right _ List.mem_cons_self
      obtain ⟨message, looks, hvoice⟩ :=
        Moment.exists_voice hsound hmove hsession ⟨_, hmem, trivial⟩
      obtain ⟨rfl, stamp, rfl⟩ := hvoice.of_snapshot htrace
      -- reading the clock changes nothing
      have hclock : moment.stage.hub.store.after moment.time (looks ++ [⟨.now, stamp⟩]) =
          moment.stage.hub.store.after moment.time looks := by
        rw [Store.after_append]
        rfl
      rw [hclock]
      exact ⟨hvoice.state_eq, hvoice.name_eq, hvoice.isOpen, hvoice.binds⟩
    · have hspeaks : event.action.Speaks := by
        rw [hevent]
        trivial
      obtain ⟨message, looks, hvoice⟩ :=
        Moment.exists_voice hsound hmove hsession ⟨event, hm, hspeaks⟩
      rw [hvoice.sender_of_deliver hm hevent]
      exact hvoice.state_eq
  · have hsound := Stage.sound_run settings moves
    have hstreams := Stage.streams_run moves (Stage.streams_new settings)
    have hhas : ((Stage.new settings).run moves).hub.store.Has session.endpoint :=
      hsound.has_endpoint hsession
    refine ⟨?_, fun moment hm hmove event hmem => ?_⟩
    · exact Stage.arrivals_run more (Stage.unread_of_closed hsound hstreams hsession hc more)
    · obtain ⟨before, rest, _, hstage⟩ := exists_split_of_mem hm
      obtain ⟨state, hlater⟩ := Stage.session_run hsession before
      have hclosed := (Stage.closed_run before hhas hc).2
      have hstill := hsound.run before
      rw [← hstage] at hlater hclosed hstill
      obtain ⟨hreads, hsilent⟩ := Moment.mute_of_closed hmove hlater hclosed hstill
      exact ⟨hsilent event hmem, fun i hi => hreads i ⟨event, hmem, hi⟩⟩

namespace Sample

/-- Alice greets over a session and speaks in Bob's name; a listener takes her name over while
another message of hers is waiting. -/
def silenced : List (Timestamp × Move) :=
  [(⟨0⟩, .openListener bob), (⟨1⟩, .openSession),
    (⟨2⟩, .arrive ⟨0⟩ (.message ⟨alice, .empty⟩)), (⟨3⟩, .turn ⟨0⟩),
    (⟨4⟩, .arrive ⟨0⟩ (.message ⟨bob, .empty⟩)), (⟨5⟩, .turn ⟨0⟩),
    (⟨6⟩, .arrive ⟨0⟩ (.message ⟨bob, .empty⟩)), (⟨7⟩, .openListener alice)]

end Sample

/-- Alice speaks under her own name and holds it then; when she has lost it, the message that is
waiting stays on her stream, whatever happens. -/
theorem only_holder_speaks_silenced :
    (((Stage.new {}).run (Sample.silenced.take 5)).hub.store.after ⟨5⟩
        (((Stage.new {}).run (Sample.silenced.take 5)).trace ⟨5⟩ (.turn ⟨0⟩) |>.take 4)).Binds
      Sample.alice ⟨1⟩ ∧
    ((Stage.new {}).run Sample.silenced).hub.store.Closed ⟨1⟩ ∧
    ∀ more, [.message ⟨Sample.bob, .empty⟩] <+:
      ((((Stage.new {}).run Sample.silenced).run more).hub.store.inbound ⟨0⟩).arrivals := by
  obtain ⟨hholder, hclosed⟩ := only_holder_speaks {} Sample.silenced
  have hmoment : (⟨(Stage.new {}).run (Sample.silenced.take 5), ⟨5⟩, .turn ⟨0⟩⟩ : Moment) ∈
      history Sample.silenced (.new {}) := List.mem_of_getElem? (i := 5) rfl
  have hc : ((Stage.new {}).run Sample.silenced).hub.store.Closed ⟨1⟩ := by decide
  refine ⟨?_, hc, fun more => ?_⟩
  · obtain ⟨hspeaks, _⟩ := hholder _ hmoment ⟨0⟩ ⟨⟨1⟩, ⟨0⟩, .active Sample.alice⟩ rfl rfl
    exact (hspeaks _ Sample.alice [(Sample.bob, ⟨0⟩)] _ rfl).2.2.2
  · exact (hclosed ⟨0⟩ ⟨⟨1⟩, ⟨0⟩, .active Sample.alice⟩ rfl hc more).1

end BroadcastChat
