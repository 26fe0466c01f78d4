/-
# Hubs that mirror each other

What holds of stores and programs is carried to stages of runs. Two stages mirror
each other (`Stage.Mirrors`) if their stores do and they have the same sessions
and, but for those of the name, the same listeners, each with the twin of the
other's endpoint. There is one lemma for each kind of move that is made on both,
and one for each that a listener of the name makes on the first one alone.

The turns of sessions are where this takes an argument: twin sessions find the
same, and do the same about it as long as neither takes the name over.

Key definitions: `Stage.Unclaimed`, `Stage.Mirrors`.
Key theorems: `Store.Mirrors.openListener`, `Stage.Mirrors.turn`,
`Stage.Mirrors.openSession`, `Stage.Mirrors.letGo`, `Stage.Mirrors.outcome?_eq`.
-/
import BroadcastChat.Proofs.Lockstep

namespace BroadcastChat

variable {n name : Name} {pairing larger : Pairing} {time : Timestamp} {e x : EndpointId}

/-! ### Twins stay twins -/

theorem Session.Twins.mono {session session' : Session} {store bare : Store}
    (h : session.Twins pairing session') (hext : pairing.Extends store bare larger) :
    session.Twins larger session' :=
  ⟨hext.twins h.endpoint, h.inbound_eq, h.state_eq⟩

theorem Session.Twins.isOver_eq {session session' : Session} (h : session.Twins pairing session') :
    session.isOver = session'.isOver := by
  rw [Session.isOver, h.state_eq, Session.isOver]

theorem Listener.Twins.mono {listener listener' : Listener} {store bare : Store}
    (h : listener.Twins pairing n listener') (hext : pairing.Extends store bare larger) :
    listener.Twins larger n listener' :=
  ⟨h.name_ne, h.name_eq, hext.twins h.endpoint, h.enrolled_eq⟩

theorem Listener.IsStray.mono {listener : Listener} {store bare : Store}
    (h : listener.IsStray pairing n) (hext : pairing.Extends store bare larger) :
    listener.IsStray larger n :=
  ⟨h.name_eq, hext.stray h.endpoint⟩

theorem Beside.listeners_mono {list list' : List Listener} {store bare : Store}
    (h : Beside (Listener.Twins pairing n) (Listener.IsStray pairing n) list list')
    (hext : pairing.Extends store bare larger) :
    Beside (Listener.Twins larger n) (Listener.IsStray larger n) list list' :=
  h.mono (fun _ _ htwins => htwins.mono hext) fun _ hstray => hstray.mono hext

/-- A listener is told by its twin. -/
theorem Listener.Twins.eq_iff {listener listener' other other' : Listener}
    (h : listener.Twins pairing n listener') (ho : other.Twins pairing n other') :
    other = listener ↔ other' = listener' := by
  obtain ⟨_, _, _⟩ := listener
  obtain ⟨_, _, _⟩ := listener'
  obtain ⟨_, _, _⟩ := other
  obtain ⟨_, _, _⟩ := other'
  obtain ⟨_, rfl, htwins, rfl⟩ := h
  obtain ⟨_, rfl, htwins', rfl⟩ := ho
  simp only [Listener.mk.injEq]
  refine and_congr_right fun _ => and_congr_left fun _ => ⟨?_, ?_⟩
  · rintro rfl
    exact pairing.right_unique htwins' htwins
  · rintro rfl
    exact pairing.left_unique htwins' htwins

/-! ### New endpoints -/

namespace Store.Mirrors

variable {store bare : Store} (h : store.Mirrors n pairing bare)
include h

theorem start (time : Timestamp) (capacity : Nat) {i i' : InboundId} (hi : i = i') :
    ∃ larger : Pairing, pairing.Extends store bare larger ∧
      ((Session.start capacity i).run time store).2.Mirrors n larger
        ((Session.start capacity i').run time bare).2 ∧
      ((Session.start capacity i).run time store).1.Twins larger
        ((Session.start capacity i').run time bare).1 := by
  obtain ⟨larger, hext, htwins, hnew⟩ := h.exists_twins capacity
  exact ⟨larger, hext, hnew.update htwins Endpoint.beginWait, htwins, hi, rfl⟩

theorem openListener (hname : name ≠ n) (time : Timestamp) (capacity : Nat) : ∃ larger : Pairing,
    pairing.Extends store bare larger ∧
      ((Program.openListener capacity name).run time store).2.Mirrors n larger
        ((Program.openListener capacity name).run time bare).2 ∧
      ((Program.openListener capacity name).run time store).1.Twins larger n
        ((Program.openListener capacity name).run time bare).1 := by
  cases hs : store.stopped with
  | false =>
    have hs' : bare.stopped = false := h.stopped_eq.symm.trans hs
    obtain ⟨larger, hext, htwins, hnew⟩ := h.exists_twins capacity
    rw [(Program.openListener_running time hs capacity name).1,
      (Program.openListener_running time hs' capacity name).1, Program.run_subscribe,
      Program.run_subscribe]
    exact ⟨larger, hext, (Program.together_takeOver hname htwins time _ _ hnew).1,
      hname, rfl, htwins, rfl⟩
  | true =>
    have hs' : bare.stopped = true := h.stopped_eq.symm.trans hs
    obtain ⟨larger, hext, htwins, hnew⟩ := h.exists_twins 1
    rw [(Program.openListener_stopped time hs capacity name).1,
      (Program.openListener_stopped time hs' capacity name).1]
    exact ⟨larger, hext, hnew.update htwins Endpoint.close, hname, rfl, htwins, rfl⟩

theorem openListener_aside (time : Timestamp) (capacity : Nat) : ∃ larger : Pairing,
    pairing.Extends store bare larger ∧
      ((Program.openListener capacity n).run time store).2.Mirrors n larger bare ∧
      ((Program.openListener capacity n).run time store).1.IsStray larger n := by
  cases hs : store.stopped with
  | false =>
    obtain ⟨larger, hext, hstray, hnew⟩ := h.exists_stray capacity
    rw [(Program.openListener_running time hs capacity n).1, Program.run_subscribe]
    exact ⟨larger, hext, (Program.aside_takeOver hstray time _ _ hnew).1, rfl, hstray⟩
  | true =>
    obtain ⟨larger, hext, hstray, hnew⟩ := h.exists_stray 1
    rw [(Program.openListener_stopped time hs capacity n).1]
    exact ⟨larger, hext, hnew.update_stray hstray Endpoint.close, rfl, hstray⟩

end Store.Mirrors

/-! ### Stages -/

namespace Stage

/-- No session goes by the name. -/
def Unclaimed (n : Name) (stage : Stage) : Prop :=
  ∀ id session, stage.hub.session? id = some session → session.state ≠ .active n

/-- The second stage is the first one without the listeners of the name. -/
structure Mirrors (n : Name) (pairing : Pairing) (stage bare : Stage) : Prop where
  settings_eq : stage.hub.settings = bare.hub.settings
  store : stage.hub.store.Mirrors n pairing bare.hub.store
  size_eq : stage.hub.sessions.size = bare.hub.sessions.size
  session : ∀ id, Option.Rel (Session.Twins pairing) (stage.hub.session? id) (bare.hub.session? id)
  listeners : Beside (Listener.Twins pairing n) (Listener.IsStray pairing n) stage.listeners
    bare.listeners

variable {stage bare : Stage} {id : SessionId}

/-- What a session does in its turn. -/
theorem step_turn {session : Session} {event : Session.Event}
    (hs : stage.hub.session? id = some session) (hrests : session.Rests)
    (hover : session.isOver = false)
    (hnext : (session.nextEvent.run time stage.hub.store).1 = some event) :
    stage.step time (.turn id) = { stage with hub := { stage.hub with
      store := ((Session.carryOut session.endpoint
        (Session.deeds stage.hub.settings.policy session.state event)).run time
          (session.nextEvent.run time stage.hub.store).2).2
      sessions := stage.hub.sessions.setIfInBounds id.index
        { session with state := session.state.next event } } } := by
  simp only [step, Hub.turn_of_heard? hs hover hnext, Session.run_handle hrests hover,
    Option.getD_some]

namespace Mirrors

theorem new (settings : HubSettings) (n : Name) :
    (Stage.new settings).Mirrors n .empty (.new settings) where
  settings_eq := rfl
  store := Store.Mirrors.empty n
  size_eq := rfl
  session _ := .none
  listeners := .nil

variable (h : stage.Mirrors n pairing bare)
include h

/-- A session is there in both stages or in neither. -/
theorem session_cases (id : SessionId) :
    (stage.hub.session? id = none ∧ bare.hub.session? id = none) ∨
      ∃ session session', stage.hub.session? id = some session ∧
        bare.hub.session? id = some session' ∧ session.Twins pairing session' := by
  have hsession := h.session id
  cases hs : stage.hub.session? id <;> cases hs' : bare.hub.session? id <;>
    rw [hs, hs'] at hsession <;> cases hsession
  · exact .inl ⟨rfl, rfl⟩
  · rename_i htwins
    exact .inr ⟨_, _, rfl, rfl, htwins⟩

theorem outcome?_eq (id : SessionId) : stage.hub.outcome? id = bare.hub.outcome? id := by
  unfold Hub.outcome?
  rcases h.session_cases id with ⟨hs, hs'⟩ | ⟨session, session', hs, hs', htwins⟩
  · rw [hs, hs']
  · rw [hs, hs']
    exact congrArg Session.State.outcome? htwins.state_eq

theorem unclaimed_iff : stage.Unclaimed n ↔ bare.Unclaimed n := by
  refine forall_congr' fun id => ?_
  rcases h.session_cases id with ⟨hs, hs'⟩ | ⟨session, session', hs, hs', htwins⟩
  · simp [hs, hs']
  · simp [hs, hs', htwins.state_eq]

/-- What is done to the stores shows nowhere else. -/
theorem withStore {store store' : Store}
    (hext : pairing.Extends stage.hub.store bare.hub.store larger)
    (hstore : store.Mirrors n larger store') :
    ({ stage with hub := { stage.hub with store } } : Stage).Mirrors n larger
      { bare with hub := { bare.hub with store := store' } } where
  settings_eq := h.settings_eq
  store := hstore
  size_eq := h.size_eq
  session id := by
    change Option.Rel (Session.Twins larger) (stage.hub.session? id) (bare.hub.session? id)
    rcases h.session_cases id with ⟨hs, hs'⟩ | ⟨session, session', hs, hs', htwins⟩
    · rw [hs, hs']
      exact .none
    · rw [hs, hs']
      exact .some (htwins.mono hext)
  listeners := h.listeners.listeners_mono hext

theorem withStore_same {store store' : Store} (hstore : store.Mirrors n pairing store') :
    ({ stage with hub := { stage.hub with store } } : Stage).Mirrors n pairing
      { bare with hub := { bare.hub with store := store' } } :=
  h.withStore (.refl _ _ _) hstore

/-! ### Single moves -/

theorem submit {message : Message} (hsender : message.sender ≠ n) :
    (stage.step time (.submit message)).Mirrors n pairing (bare.step time (.submit message)) ∧
      (stage.hub.submit time message).1.map (Report.without n) =
        (bare.hub.submit time message).1 := by
  obtain ⟨hstore, hresult⟩ := Program.together_submit hsender time _ _ h.store
  exact ⟨h.withStore_same hstore, hresult⟩

theorem shutDown : (stage.step time .shutDown).Mirrors n pairing (bare.step time .shutDown) :=
  h.withStore_same (Program.together_shutDown time _ _ h.store).1

/-- Reading from twins gives the same. -/
theorem reading_eq (htwins : pairing.twins e x) : (stage.hub.read e).1 = (bare.hub.read x).1 :=
  congrArg (fun endpoint : Endpoint => endpoint.read.1) (h.store.endpoint_eq htwins)

theorem read (htwins : pairing.twins e x) :
    (stage.step time (.read e)).Mirrors n pairing (bare.step time (.read x)) := by
  have hafter := h.store.update htwins fun _ => (bare.hub.store.endpoint x).read.2
  refine h.withStore_same ?_
  change (stage.hub.store.update e fun _ => (stage.hub.store.endpoint e).read.2).Mirrors n pairing
    (bare.hub.store.update x fun _ => (bare.hub.store.endpoint x).read.2)
  rw [h.store.endpoint_eq htwins]
  exact hafter

theorem dropOutbound (id : SessionId) :
    (stage.step time (.dropOutbound id)).Mirrors n pairing (bare.step time (.dropOutbound id)) := by
  rcases h.session_cases id with ⟨hs, hs'⟩ | ⟨session, session', hs, hs', htwins⟩
  · simp only [Stage.step, hs, hs']
    exact h
  · simp only [Stage.step, hs, hs']
    exact h.withStore_same (Program.together_drop htwins.endpoint time _ _ h.store).1

theorem arrive (id : SessionId) (arrival : Arrival) :
    (stage.step time (.arrive id arrival)).Mirrors n pairing
      (bare.step time (.arrive id arrival)) := by
  rcases h.session_cases id with ⟨hs, hs'⟩ | ⟨session, session', hs, hs', htwins⟩
  · simp only [Stage.step, Hub.send, hs, hs']
    exact h
  · simp only [Stage.step, Hub.send, hs, hs', htwins.inbound_eq, htwins.isOver_eq,
      h.store.inbound_eq]
    split
    · split
      · exact h
      · exact h.withStore_same (h.store.updateInbound _ _)
    · exact h

theorem endInput (id : SessionId) :
    (stage.step time (.endInput id)).Mirrors n pairing (bare.step time (.endInput id)) := by
  rcases h.session_cases id with ⟨hs, hs'⟩ | ⟨session, session', hs, hs', htwins⟩
  · simp only [Stage.step, Hub.endInput, hs, hs']
    exact h
  · simp only [Stage.step, Hub.endInput, hs, hs', htwins.inbound_eq]
    exact h.withStore_same (h.store.updateInbound _ _)

/-- Twin sessions that find something do the same about it, as long as none takes the name over. -/
theorem turn_of_event {session session' : Session} {event : Session.Event}
    (hs : stage.hub.session? id = some session) (hs' : bare.hub.session? id = some session')
    (htwins : session.Twins pairing session') (hrests : session.Rests) (hrests' : session'.Rests)
    (hover : session.isOver = false)
    (hnext : (session.nextEvent.run time stage.hub.store).1 = some event)
    (hbefore : stage.Unclaimed n)
    (hafter : (stage.step time (.turn id)).Unclaimed n ∨
      (bare.step time (.turn id)).Unclaimed n) :
    (stage.step time (.turn id)).Mirrors n pairing (bare.step time (.turn id)) := by
  obtain ⟨hstore, hfound⟩ := Session.together_nextEvent htwins time _ _ h.store
  have hstep := step_turn hs hrests hover hnext
  have hstep' := step_turn hs' hrests' (htwins.isOver_eq.symm.trans hover)
    (hfound.symm.trans hnext)
  rw [← htwins.state_eq, ← h.settings_eq] at hstep'
  have hnamed : session.state.next event ≠ .active n := by
    rcases hafter with hafter | hafter
    · rw [hstep] at hafter
      exact hafter id _ (Hub.session?_setIfInBounds hs)
    · rw [hstep'] at hafter
      exact hafter id _ (Hub.session?_setIfInBounds hs')
  have hspares : ∀ deed ∈ Session.deeds stage.hub.settings.policy session.state event,
      deed.Spares n :=
    fun deed hm => Session.spares_of_mem_deeds (hbefore id session hs) hnamed hm
  rw [hstep, hstep']
  refine ⟨h.settings_eq, ?_, ?_, fun other => ?_, h.listeners⟩
  · exact (Session.together_carryOut htwins.endpoint hspares time _ _ hstore).1
  · rw [Array.size_setIfInBounds, Array.size_setIfInBounds]
    exact h.size_eq
  · unfold Hub.session?
    rw [Array.getElem?_setIfInBounds, Array.getElem?_setIfInBounds, h.size_eq]
    split
    · split
      · exact .some ⟨htwins.endpoint, htwins.inbound_eq, rfl⟩
      · exact .none
    · exact h.session other

/-- **Twin sessions take the same turns**, as long as none takes the name over. -/
theorem turn (hrests : ∀ session ∈ stage.hub.sessions.toList, session.Rests)
    (hrests' : ∀ session ∈ bare.hub.sessions.toList, session.Rests) (hbefore : stage.Unclaimed n)
    (hafter : (stage.step time (.turn id)).Unclaimed n ∨
      (bare.step time (.turn id)).Unclaimed n) :
    (stage.step time (.turn id)).Mirrors n pairing (bare.step time (.turn id)) := by
  have hidle : stage.hub.heard? time id = none → bare.hub.heard? time id = none →
      (stage.step time (.turn id)).Mirrors n pairing (bare.step time (.turn id)) := by
    intro hnone hnone'
    simp only [Stage.step, Hub.turn_of_not_heard? hnone, Hub.turn_of_not_heard? hnone',
      Option.getD_none]
    exact h
  rcases h.session_cases id with ⟨hs, hs'⟩ | ⟨session, session', hs, hs', htwins⟩
  · exact hidle (by simp only [Hub.heard?, hs]) (by simp only [Hub.heard?, hs'])
  have hsame : session.isOver = session'.isOver := htwins.isOver_eq
  have hfound : (session.nextEvent.run time stage.hub.store).1 =
      (session'.nextEvent.run time bare.hub.store).1 :=
    (Session.together_nextEvent htwins time _ _ h.store).2
  by_cases hover : session.isOver = true
  · exact hidle (by simp only [Hub.heard?, hs, hover, if_true])
      (by simp only [Hub.heard?, hs', ← hsame, hover, if_true])
  · cases hnext : (session.nextEvent.run time stage.hub.store).1 with
    | none =>
      exact hidle (by simp only [Hub.heard?, hs, if_neg hover, hnext])
        (by simp only [Hub.heard?, hs', ← hsame, if_neg hover, ← hfound, hnext])
    | some event =>
      exact h.turn_of_event hs hs' htwins (hrests session (mem_sessions hs))
        (hrests' session' (mem_sessions hs')) (Bool.eq_false_iff.2 hover) hnext hbefore hafter

theorem openSession (time : Timestamp) : ∃ larger : Pairing,
    pairing.Extends stage.hub.store bare.hub.store larger ∧
      (stage.step time .openSession).Mirrors n larger (bare.step time .openSession) := by
  obtain ⟨⟨settings, store, sessions⟩, listeners⟩ := stage
  obtain ⟨⟨settings', store', sessions'⟩, listeners'⟩ := bare
  obtain rfl : settings = settings' := h.settings_eq
  obtain ⟨hinbound, hstore⟩ := h.store.newInbound
  obtain ⟨larger, hext, hafter, htwins⟩ := hstore.start time settings.capacity hinbound
  have hsame : pairing.Extends store store' larger := ⟨hext.twins, hext.stray, hext.of_twins⟩
  have hmirrors := h.withStore hsame hafter
  have hsize : sessions.size = sessions'.size := h.size_eq
  refine ⟨larger, hsame, rfl, hafter, ?_, fun id => ?_, hmirrors.listeners⟩
  · simp only [Stage.step, Hub.openSession, Array.size_push, hsize]
  · simp only [Stage.step, Hub.openSession, Hub.session?, Array.getElem?_push, hsize]
    split
    · exact .some htwins
    · exact hmirrors.session id

theorem openListener (time : Timestamp) (hname : name ≠ n) : ∃ larger : Pairing,
    pairing.Extends stage.hub.store bare.hub.store larger ∧
      (stage.step time (.openListener name)).Mirrors n larger
        (bare.step time (.openListener name)) ∧
      (stage.hub.openListener time name).1.Twins larger n (bare.hub.openListener time name).1 := by
  obtain ⟨⟨settings, store, sessions⟩, listeners⟩ := stage
  obtain ⟨⟨settings', store', sessions'⟩, listeners'⟩ := bare
  obtain rfl : settings = settings' := h.settings_eq
  obtain ⟨larger, hext, hstore, htwins⟩ := h.store.openListener hname time settings.capacity
  have hmirrors := h.withStore hext hstore
  exact ⟨larger, hext, ⟨rfl, hstore, h.size_eq, hmirrors.session,
    .cons htwins hmirrors.listeners⟩, htwins⟩

theorem openListener_aside (time : Timestamp) : ∃ larger : Pairing,
    pairing.Extends stage.hub.store bare.hub.store larger ∧
      (stage.step time (.openListener n)).Mirrors n larger bare ∧
      (stage.hub.openListener time n).1.IsStray larger n := by
  obtain ⟨larger, hext, hstore, hstray⟩ :=
    h.store.openListener_aside time stage.hub.settings.capacity
  have hmirrors := h.withStore hext hstore
  exact ⟨larger, hext, ⟨hmirrors.settings_eq, hstore, h.size_eq, hmirrors.session,
    .skip hstray hmirrors.listeners⟩, hstray⟩

theorem letGo {listener listener' : Listener} (htwins : listener.Twins pairing n listener') :
    (stage.step time (.letGo listener)).Mirrors n pairing (bare.step time (.letGo listener')) := by
  have hheld : listener ∈ stage.listeners ↔ listener' ∈ bare.listeners := by
    refine ⟨fun hm => ?_, fun hm => ?_⟩
    · rcases h.listeners.of_mem hm with hstray | ⟨other, ho, htwins'⟩
      · exact absurd hstray.name_eq htwins.name_ne
      · exact (htwins.eq_iff htwins').1 rfl ▸ ho
    · obtain ⟨other, ho, htwins'⟩ := h.listeners.exists_of_mem hm
      exact (htwins.eq_iff htwins').2 rfl ▸ ho
  simp only [Stage.step, hheld]
  split
  · have hmirrors := h.withStore_same (Program.together_letGo htwins time _ _ h.store).1
    refine ⟨hmirrors.settings_eq, hmirrors.store, hmirrors.size_eq, hmirrors.session, ?_⟩
    exact h.listeners.erase (fun _ _ htwins' => htwins.eq_iff htwins')
      fun hstray => htwins.name_ne hstray.name_eq
  · exact h

theorem letGo_aside {listener : Listener} (hstray : listener.IsStray pairing n) :
    (stage.step time (.letGo listener)).Mirrors n pairing bare := by
  simp only [Stage.step]
  split
  · have hmirrors := h.withStore_same (Program.aside_letGo hstray time _ _ h.store).1
    refine ⟨hmirrors.settings_eq, hmirrors.store, hmirrors.size_eq, hmirrors.session, ?_⟩
    refine h.listeners.erase_left fun listener' htwins => htwins.name_ne hstray.name_eq
  · exact h

theorem read_aside (hstray : pairing.stray e) :
    (stage.step time (.read e)).Mirrors n pairing bare :=
  h.withStore_same (h.store.update_stray hstray _)

end Mirrors

end Stage

end BroadcastChat
