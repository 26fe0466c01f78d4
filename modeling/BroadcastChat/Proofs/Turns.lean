/-
# Who speaks when

A submit looks at its sender's binding and then broadcasts, or is refused. A
turn of a session looks for something to handle, which changes nothing that
others could notice, and then handles it (`Session.handle`): a first message
takes the name over and is broadcast if the policy says so, a later one is
broadcast, and an ending frees the name and closes the endpoint.

Key definitions: `Session.handle`, `Hub.heard?`, `Session.speech?`.
Key theorems: `Program.Within.alike`, `Program.submit_accepted`,
`Program.submit_rejected`, `Session.run_turn_of_event`,
`Session.trace_turn_of_event`, `Session.run_handle_hello`,
`Session.run_handle_relayed`, `Hub.turn_of_heard?`, `Hub.turn_of_not_heard?`.
-/
import BroadcastChat.Proofs.Stage
import BroadcastChat.Proofs.Kinds

namespace BroadcastChat

/-! ### Looking changes nothing -/

theorem Store.Alike.trans {a b c : Store} (h : a.Alike b) (h' : b.Alike c) : a.Alike c where
  registry_eq := h'.registry_eq.trans h.registry_eq
  stopped_eq := h'.stopped_eq.trans h.stopped_eq
  has_iff e := (h'.has_iff e).trans (h.has_iff e)
  shut_eq e := (h'.shut_eq e).trans (h.shut_eq e)
  dropped_eq e := (h'.dropped_eq e).trans (h.dropped_eq e)

theorem Action.alike_perform {time : Timestamp} {store : Store} {action : Action}
    (h : action.kind ∈ [.receive, .other]) : store.Alike (action.perform time store).2 := by
  cases action with
  | beginWait e =>
    exact ⟨rfl, rfl, fun _ => Store.has_update, fun x =>
      Store.update_congr Endpoint.shut (Action.shut_beginWait _) x, fun x =>
      Store.update_congr Endpoint.dropped (Endpoint.dropped_beginWait _) x⟩
  | endWait e =>
    exact ⟨rfl, rfl, fun _ => Store.has_update, fun x =>
      Store.update_congr Endpoint.shut rfl x, fun x =>
      Store.update_congr Endpoint.dropped rfl x⟩
  | receive i => exact Store.alike_inbounds _ _
  | lookup | snapshotExcept | isClosed | isStopped | now => exact .refl _
  | _ => simp [kind] at h

theorem Program.Within.alike {α : Type} {p : Program α} (h : p.Within [.receive, .other])
    (time : Timestamp) (store : Store) : store.Alike (p.run time store).2 := by
  induction p generalizing store with
  | done value => exact .refl _
  | step action next ih =>
    have hfirst : store.Alike (action.perform time store).2 :=
      Action.alike_perform h.1
    exact hfirst.trans (ih _ (h.2 _) _)

/-! ### Taking a name over -/

namespace Program

variable {time : Timestamp} {store : Store}

theorem registrations_takeOver (name : Name) (endpoint : EndpointId) :
    registrations ((takeOver name endpoint).trace time store) = [(name, endpoint)] := by
  rw [takeOver, register, trace_act_bind]
  generalize ((Action.register name endpoint).perform time store).1 = superseded
  cases superseded <;> rfl

theorem run_subscribe (capacity : Nat) (name : Name) :
    (subscribe capacity name).run time store =
      (⟨name, (store.newEndpoint capacity).1, true⟩,
        ((takeOver name (store.newEndpoint capacity).1).run time
          (store.newEndpoint capacity).2).2) := by
  rw [subscribe, create, run_act_bind, run_bind]
  rfl

theorem trace_subscribe (capacity : Nat) (name : Name) :
    (subscribe capacity name).trace time store =
      ⟨.create capacity, (store.newEndpoint capacity).1⟩ ::
        (takeOver name (store.newEndpoint capacity).1).trace time
          (store.newEndpoint capacity).2 := by
  rw [subscribe, create, trace_act_bind, trace_bind, trace_pure, List.append_nil]
  rfl

theorem registrations_subscribe (capacity : Nat) (name : Name) :
    registrations ((subscribe capacity name).trace time store) =
      [(name, (store.newEndpoint capacity).1)] := by
  rw [trace_subscribe]
  exact registrations_takeOver _ _

/-- On a hub that runs, a listener takes its name over. -/
theorem openListener_running (time : Timestamp) (hs : store.stopped = false) (capacity : Nat)
    (name : Name) :
    (openListener capacity name).run time store = (subscribe capacity name).run time store ∧
      (openListener capacity name).trace time store = ⟨.isStopped, false⟩ ::
        ((subscribe capacity name).trace time store ++ [⟨.isStopped, false⟩]) := by
  have hlook : Action.isStopped.perform time store = (false, store) := by
    simp only [Action.perform, hs]
  have hagain : Action.isStopped.perform time ((subscribe capacity name).run time store).2 =
      (false, ((subscribe capacity name).run time store).2) := by
    have hstill : ((subscribe capacity name).run time store).2.stopped = store.stopped :=
      (within_subscribe capacity name).stopped_eq (by decide)
    simp only [Action.perform, hstill, hs]
  refine ⟨?_, ?_⟩
  · rw [openListener, isStopped, run_act_bind, hlook, if_neg (by simp), run_bind, run_act_bind,
      hagain]
    rfl
  · rw [openListener, isStopped, trace_act_bind, hlook, if_neg (by simp), trace_bind,
      trace_act_bind, hagain]
    rfl

/-- On a hub that has stopped, a listener is closed from the start. -/
theorem openListener_stopped (time : Timestamp) (hs : store.stopped = true) (capacity : Nat)
    (name : Name) :
    (openListener capacity name).run time store = (closedListener name).run time store ∧
      (openListener capacity name).trace time store =
        ⟨.isStopped, true⟩ :: (closedListener name).trace time store := by
  have hlook : Action.isStopped.perform time store = (true, store) := by
    simp only [Action.perform, hs]
  refine ⟨?_, ?_⟩
  · rw [openListener, isStopped, run_act_bind, hlook, if_pos rfl]
  · rw [openListener, isStopped, trace_act_bind, hlook, if_pos rfl]

theorem binds_takeOver {name n : Name} {endpoint e : EndpointId} :
    ((takeOver name endpoint).run time store).2.Binds n e ↔
      if n = name then e = endpoint else store.Binds n e := by
  have hregistry : ((takeOver name endpoint).run time store).2.registry =
      ((Action.register name endpoint).perform time store).2.registry := by
    rw [takeOver, register, run_act_bind]
    generalize ((Action.register name endpoint).perform time store).1 = superseded
    cases superseded <;> rfl
  have hbinds : ((Action.register name endpoint).perform time store).2.Binds n e ↔
      if n = name then e = endpoint else store.Binds n e := Books.binds_register
  rw [← hbinds, Store.Binds, hregistry]
  rfl

end Program

/-! ### Submits -/

namespace Program

variable {time : Timestamp} {store : Store} {message : Message}

/-- A submit that is accepted looks at the sender's binding and broadcasts. -/
theorem submit_accepted {report : Report}
    (h : ((submit message).run time store).1 = .ok report) :
    ∃ events : List Event, OfKinds [.other] events ∧
      (submit message).trace time store =
        events ++ (broadcast message).trace time store ∧
      ((submit message).run time store).2 = ((broadcast message).run time store).2 := by
  cases hl : store.registry.lookup message.sender with
  | none =>
    have hlook : (Action.lookup message.sender).perform time store = (none, store) := by
      simp only [Action.perform, hl]
    rw [submit, lookup, run_act_bind, hlook] at h
    cases h
  | some endpoint =>
    have hlook : (Action.lookup message.sender).perform time store = (some endpoint, store) := by
      simp only [Action.perform, hl]
    cases hc : (store.endpoint endpoint).isClosed with
    | true =>
      have hsee : (Action.isClosed endpoint).perform time store = (true, store) := by
        simp only [Action.perform, hc]
      rw [submit, lookup, run_act_bind, hlook] at h
      dsimp only at h
      rw [isClosed, run_act_bind, hsee] at h
      cases h
    | false =>
      have hsee : (Action.isClosed endpoint).perform time store = (false, store) := by
        simp only [Action.perform, hc]
      refine ⟨[⟨.lookup message.sender, some endpoint⟩, ⟨.isClosed endpoint, false⟩], ?_, ?_, ?_⟩
      · intro event hm
        simp only [List.mem_cons, List.not_mem_nil, or_false] at hm
        rcases hm with rfl | rfl <;> exact List.mem_singleton.2 rfl
      · rw [submit, lookup, trace_act_bind, hlook]
        dsimp only
        rw [isClosed, trace_act_bind, hsee, if_neg (by simp), trace_bind, trace_pure,
          List.append_nil]
        rfl
      · rw [submit, lookup, run_act_bind, hlook]
        dsimp only
        rw [isClosed, run_act_bind, hsee, if_neg (by simp), run_bind]
        rfl

/-- A submit that is refused at most removes the sender's binding. -/
theorem submit_rejected {refusal : NotSubscribed}
    (h : ((submit message).run time store).1 = .error refusal) :
    OfKinds [.remove, .other] ((submit message).trace time store) := by
  cases hl : store.registry.lookup message.sender with
  | none =>
    have hlook : (Action.lookup message.sender).perform time store = (none, store) := by
      simp only [Action.perform, hl]
    rw [submit, lookup, trace_act_bind, hlook]
    intro event hm
    rw [List.mem_singleton.1 hm]
    simp
  | some endpoint =>
    have hlook : (Action.lookup message.sender).perform time store = (some endpoint, store) := by
      simp only [Action.perform, hl]
    cases hc : (store.endpoint endpoint).isClosed with
    | true =>
      have hsee : (Action.isClosed endpoint).perform time store = (true, store) := by
        simp only [Action.perform, hc]
      rw [submit, lookup, trace_act_bind, hlook]
      dsimp only
      rw [isClosed, trace_act_bind, hsee, if_pos rfl, removeIfCurrent, trace_act_bind]
      intro event hm
      simp only [trace_pure, List.mem_cons, List.not_mem_nil, or_false] at hm
      rcases hm with rfl | rfl | rfl <;> simp
    | false =>
      have hsee : (Action.isClosed endpoint).perform time store = (false, store) := by
        simp only [Action.perform, hc]
      rw [submit, lookup, run_act_bind, hlook] at h
      dsimp only at h
      rw [isClosed, run_act_bind, hsee, if_neg (by simp), run_bind] at h
      cases h

end Program

namespace Session

open Program

variable {time : Timestamp} {store : Store} {policy : GreetingPolicy} {session : Session}

/-! ### Handling -/

/-- What a session does about an event, as far as to the wait for the next one. -/
def handle (policy : GreetingPolicy) (session : Session) (event : Event) : Program State := do
  let state ← session.onEvent policy event
  session.wrapUp state

/-- What a session broadcasts when it handles a message. -/
def speech? (policy : GreetingPolicy) (session : Session) (message : Message) : Option Message :=
  match session.state, policy with
  | .awaitingHello, .broadcast => some message
  | .active name, _ => some (message.sentAs name)
  | _, _ => none

/-- Unless it has to end, a session runs on a hub that runs, and its endpoint is open. -/
theorem open_of_not_ending
    (h : ∀ ending, (session.nextEvent.run time store).1 ≠ some (.ending ending)) :
    store.stopped = false ∧ ¬store.Closed session.endpoint := by
  cases hs : store.stopped with
  | true =>
    have hlook : Action.isStopped.perform time store = (true, store) := by
      simp only [Action.perform, hs]
    refine absurd ?_ (h .cancelled)
    rw [nextEvent, isStopped, run_act_bind, hlook, if_pos rfl]
    rfl
  | false =>
    refine ⟨rfl, fun hc => h .evicted ?_⟩
    have hlook : Action.isStopped.perform time store = (false, store) := by
      simp only [Action.perform, hs]
    have hsee : (Action.isClosed session.endpoint).perform time store = (true, store) := by
      simp only [Action.perform]
      rw [hc]
    rw [nextEvent, isStopped, run_act_bind, hlook, if_neg (by simp), isClosed, run_act_bind, hsee,
      if_pos rfl]
    rfl

theorem run_turn_of_none (h : (session.nextEvent.run time store).1 = none) :
    ((session.turn policy).run time store).1 = none := by
  unfold turn
  rw [run_bind, h]
  rfl

theorem run_turn_of_event {event : Event} (h : (session.nextEvent.run time store).1 = some event) :
    (session.turn policy).run time store =
      (some { session with state :=
          ((session.handle policy event).run time (session.nextEvent.run time store).2).1 },
        ((session.handle policy event).run time (session.nextEvent.run time store).2).2) := by
  unfold turn handle
  rw [run_bind, h, run_bind]
  simp only [run_bind, run_pure]

theorem trace_turn_of_event {event : Event}
    (h : (session.nextEvent.run time store).1 = some event) :
    (session.turn policy).trace time store = session.nextEvent.trace time store ++
      (session.handle policy event).trace time (session.nextEvent.run time store).2 := by
  unfold turn handle
  rw [trace_bind, h]
  simp only [trace_bind, trace_pure, List.append_nil]

theorem wrapUp_active (name : Name) :
    session.wrapUp (.active name) = pure (.active name) := rfl

theorem run_handle_hello (hs : session.state = .awaitingHello) (hello : Message) :
    (session.handle .broadcast (.message hello)).run time store =
      (.active hello.sender, ((broadcast hello).run time
        ((takeOver hello.sender session.endpoint).run time store).2).2) := by
  unfold handle onEvent
  rw [hs]
  simp only [greet, run_bind, run_pure, wrapUp_active]

theorem trace_handle_hello (hs : session.state = .awaitingHello) (hello : Message) :
    (session.handle .broadcast (.message hello)).trace time store =
      (takeOver hello.sender session.endpoint).trace time store ++
        (broadcast hello).trace time
          ((takeOver hello.sender session.endpoint).run time store).2 := by
  unfold handle onEvent
  rw [hs]
  simp only [greet, trace_bind, run_bind, run_pure, trace_pure, wrapUp_active, List.append_nil]

theorem run_handle_quiet_hello (hs : session.state = .awaitingHello) (hello : Message) :
    (session.handle .registerOnly (.message hello)).run time store =
      (.active hello.sender, ((takeOver hello.sender session.endpoint).run time store).2) := by
  unfold handle onEvent
  rw [hs]
  simp only [greet, run_bind, run_pure, wrapUp_active]

theorem trace_handle_quiet_hello (hs : session.state = .awaitingHello) (hello : Message) :
    (session.handle .registerOnly (.message hello)).trace time store =
      (takeOver hello.sender session.endpoint).trace time store := by
  unfold handle onEvent
  rw [hs]
  simp only [greet, trace_bind, run_bind, run_pure, trace_pure, wrapUp_active, List.append_nil]

theorem run_handle_relayed {name : Name} (hs : session.state = .active name) (message : Message) :
    (session.handle policy (.message message)).run time store =
      (.active name, ((broadcast (message.sentAs name)).run time store).2) := by
  unfold handle onEvent
  rw [hs]
  simp only [run_bind, run_pure, wrapUp_active]

theorem trace_handle_relayed {name : Name} (hs : session.state = .active name)
    (message : Message) :
    (session.handle policy (.message message)).trace time store =
      (broadcast (message.sentAs name)).trace time store := by
  unfold handle onEvent
  rw [hs]
  simp only [trace_bind, run_bind, run_pure, trace_pure, wrapUp_active, List.append_nil]

/-- A session registers nobody but its own endpoint, under the name of its first message. -/
theorem registered_handle {event : Event} {n : Name} {e : EndpointId}
    (h : Registered ((session.handle policy event).trace time store) n e) :
    ∃ hello, event = .message hello ∧ session.state = .awaitingHello ∧ n = hello.sender ∧
      e = session.endpoint := by
  -- only a first message takes a name over
  have hother : ∀ {p : Program State}, session.onEvent policy event = p →
      p.Within [.deliver, .remove, .close, .now, .other] → False := by
    intro p hp hwithin
    have hall : (session.handle policy event).Within [.deliver, .remove, .close, .now, .other] := by
      unfold handle
      rw [hp]
      exact Within.bind hwithin fun state => (within_wrapUp session state).mono (by decide)
    exact hall.ofKinds.not_registered (by decide) n e h
  cases hs : session.state with
  | awaitingHello =>
    cases event with
    | message hello =>
      have hboth : Registered ((takeOver hello.sender session.endpoint).trace time store) n e := by
        cases policy with
        | broadcast =>
          rw [trace_handle_hello hs, registered_append] at h
          exact h.resolve_right
            ((within_broadcast hello).ofKinds.not_registered (by decide) n e)
        | registerOnly => rwa [trace_handle_quiet_hello hs] at h
      rw [Registered, registrations_takeOver] at hboth
      cases List.mem_singleton.1 hboth
      exact ⟨hello, rfl, rfl, rfl, rfl⟩
    | ending ending =>
      refine (hother (p := pure (.closed (ending.outcome false))) ?_ within_pure).elim
      unfold onEvent
      rw [hs]
  | active name =>
    cases event with
    | message message =>
      refine (hother (p := broadcast (message.sentAs name) >>= fun _ => pure (.active name)) ?_
        (Within.bind (within_broadcast _) fun _ => within_pure)).elim
      unfold onEvent
      rw [hs]
    | ending ending =>
      refine (hother (p := pure (.closing name (ending.outcome true))) ?_ within_pure).elim
      unfold onEvent
      rw [hs]
  | closing name outcome =>
    refine (hother (p := pure (.closing name outcome)) ?_ within_pure).elim
    unfold onEvent
    rw [hs]
  | closed outcome =>
    refine (hother (p := pure (.closed outcome)) ?_ within_pure).elim
    unfold onEvent
    rw [hs]

/-- After an ending a session is over. -/
theorem outcome_handle_ending {ending : Ending} (hover : session.isOver = false)
    (hrests : session.Rests) :
    (((session.handle policy (.ending ending)).run time store).1.outcome?).isSome = true := by
  unfold handle onEvent
  cases hs : session.state with
  | awaitingHello => rfl
  | active name => rfl
  | closing name outcome => exact absurd hs (hrests name outcome)
  | closed outcome =>
    rw [isOver, hs] at hover
    cases hover

/-- What is handled without a broadcast delivers nothing. -/
theorem within_handle {event : Event}
    (h : ∀ message, event = .message message → session.speech? policy message = none) :
    (session.handle policy event).Within [.register, .remove, .close, .other] := by
  refine Within.bind ?_ fun state => (within_wrapUp session state).mono (by decide)
  unfold onEvent
  cases hs : session.state with
  | awaitingHello =>
    cases event with
    | message hello =>
      cases policy with
      | broadcast =>
        have hspeech := h hello rfl
        unfold speech? at hspeech
        rw [hs] at hspeech
        cases hspeech
      | registerOnly =>
        exact Within.bind ((within_takeOver _ _).mono (by decide)) fun _ => within_pure
    | ending ending => exact within_pure
  | active name =>
    cases event with
    | message message =>
      have hspeech := h message rfl
      unfold speech? at hspeech
      rw [hs] at hspeech
      cases hspeech
    | ending ending => exact within_pure
  | closing name outcome => exact within_pure
  | closed outcome => exact within_pure

end Session

/-! ### Turns of the hub -/

namespace Hub

variable {time : Timestamp} {hub : Hub} {id : SessionId}

/-- What a session that takes a turn finds to handle. -/
def heard? (time : Timestamp) (hub : Hub) (id : SessionId) : Option Session.Event :=
  match hub.session? id with
  | none => none
  | some session =>
    if session.isOver then none else (session.nextEvent.run time hub.store).1

theorem session_of_heard? {event : Session.Event} (h : hub.heard? time id = some event) :
    ∃ session, hub.session? id = some session ∧ session.isOver = false ∧
      (session.nextEvent.run time hub.store).1 = some event := by
  unfold heard? at h
  split at h
  · cases h
  · rename_i session hsession
    split at h
    · cases h
    · rename_i hover
      exact ⟨session, hsession, by simpa using hover, h⟩

theorem turn_of_heard? {event : Session.Event} {session : Session}
    (hsession : hub.session? id = some session) (hover : session.isOver = false)
    (h : (session.nextEvent.run time hub.store).1 = some event) :
    hub.turn time id = some { hub with
      store := ((session.handle hub.settings.policy event).run time
        (session.nextEvent.run time hub.store).2).2
      sessions := hub.sessions.setIfInBounds id.index { session with
        state := ((session.handle hub.settings.policy event).run time
          (session.nextEvent.run time hub.store).2).1 } } := by
  unfold turn
  rw [hsession]
  simp only [hover, Bool.false_eq_true, if_false, Session.run_turn_of_event h]

theorem turn_of_not_heard? (h : hub.heard? time id = none) : hub.turn time id = none := by
  unfold heard? at h
  unfold turn
  cases hsession : hub.session? id with
  | none => rfl
  | some session =>
    rw [hsession] at h
    by_cases hover : session.isOver = true
    · simp only [hover, if_true]
    · simp only [hover, Bool.false_eq_true, if_false] at h ⊢
      have hrun : ((session.turn hub.settings.policy).run time hub.store).1 = none :=
        Session.run_turn_of_none h
      split
      · rfl
      · rename_i turned store heq
        rw [heq] at hrun
        cases hrun

theorem session?_setIfInBounds {session turned : Session} {store : Store}
    (h : hub.session? id = some session) :
    ({ hub with store, sessions := hub.sessions.setIfInBounds id.index turned } : Hub).session? id =
      some turned := by
  obtain ⟨hlt, _⟩ := Array.getElem?_eq_some_iff.1 h
  unfold session?
  simp [hlt]

end Hub

end BroadcastChat
