/-
# Turns that happen elsewhere

A session that only ends, because the hub has stopped or its endpoint is
closed, and whose endpoint holds no name, changes nothing but that endpoint and
where it stands (`Hub.cutOff`). No other session has anything to do with an
endpoint that holds no name (`Program.Spares`), so two turns of which one is such
an end can be taken in either order (`Hub.Doomed.turn_cutOff`).

Key definitions: `Action.Elsewhere`, `Program.Spares`, `Hub.Doomed`, `Hub.cutOff`.
Key theorems: `Session.spares_turn`, `Hub.Doomed.turn_eq`,
`Hub.Doomed.turn_cutOff`.
-/
import BroadcastChat.Proofs.Deeds
import BroadcastChat.Proofs.Bystanders

namespace BroadcastChat

/-! ### Changing one endpoint -/

namespace Store

variable {store : Store} {e x : EndpointId}

theorem update_update (store : Store) (e : EndpointId) (f g : Endpoint → Endpoint) :
    (store.update e f).update e g = store.update e fun endpoint => g (f endpoint) := by
  unfold update
  congr 1
  refine Array.ext (by simp) fun i hi hi' => ?_
  simp only [Array.getElem_modify]
  split <;> rfl

theorem update_comm (hne : x ≠ e) (f g : Endpoint → Endpoint) :
    (store.update e f).update x g = (store.update x g).update e f := by
  have hindex : e.index ≠ x.index := fun heq => hne (congrArg EndpointId.mk heq.symm)
  unfold update
  congr 1
  refine Array.ext (by simp) fun i hi hi' => ?_
  simp only [Array.getElem_modify]
  by_cases he : e.index = i
  · subst he
    simp [Ne.symm hindex]
  · simp [he]

end Store

/-- The action makes no endpoint and has nothing to do with this one. -/
def Action.Elsewhere (e : EndpointId) : Action → Prop
  | .create _ => False
  | .register _ x | .deliver x _ | .close x | .isClosed x | .drop x | .beginWait x | .endWait x =>
    x ≠ e
  | _ => True

theorem Action.perform_update {time : Timestamp} {store : Store} {action : Action}
    {e : EndpointId} (h : action.Elsewhere e) (f : Endpoint → Endpoint) :
    action.perform time (store.update e f) =
      ((action.perform time store).1, (action.perform time store).2.update e f) := by
  cases action with
  | create capacity => exact h.elim
  | deliver x d =>
    simp only [perform, Store.endpoint_update_of_ne f h]
    cases (store.endpoint x).deliver d with
    | ok after => simp only [Store.update_comm h]
    | error refusal => rfl
  | close x => simp only [perform, Store.endpoint_update_of_ne f h, Store.update_comm h]
  | isClosed x => simp only [perform, Store.endpoint_update_of_ne f h]
  | drop x => simp only [perform, Store.update_comm h]
  | beginWait x => simp only [perform, Store.update_comm h]
  | endWait x => simp only [perform, Store.update_comm h]
  | _ => rfl

/-- No name is held by the endpoint. -/
def Store.Unbound (store : Store) (e : EndpointId) : Prop := ∀ n, ¬store.Binds n e

theorem Action.Elsewhere.unbound {time : Timestamp} {store : Store} {action : Action}
    {e : EndpointId} (h : action.Elsewhere e) (hunbound : store.Unbound e) :
    (action.perform time store).2.Unbound e := by
  intro n hb
  rcases Action.binds_of_perform hb with hb | rfl
  · exact hunbound n hb
  · exact h rfl

/-! ### Programs that spare an endpoint -/

namespace Program

variable {α β : Type} {e : EndpointId} {p : Program α}

/-- As long as the endpoint holds no name the program leaves it alone, does the same however the
endpoint stands, and gives it no name. -/
def Spares (e : EndpointId) (p : Program α) : Prop :=
  ∀ time store, store.Unbound e → (p.run time store).2.Unbound e ∧
    ∀ f, p.run time (store.update e f) = ((p.run time store).1, (p.run time store).2.update e f)

theorem spares_pure {value : α} : (pure value : Program α).Spares e :=
  fun _ _ hunbound => ⟨hunbound, fun _ => rfl⟩

theorem Spares.bind {k : α → Program β} (h : p.Spares e) (hk : ∀ value, (k value).Spares e) :
    (p >>= k).Spares e := by
  intro time store hunbound
  obtain ⟨hmid, hrun⟩ := h time store hunbound
  obtain ⟨hafter, hrun'⟩ := hk _ time _ hmid
  refine ⟨?_, fun f => ?_⟩
  · rw [run_bind]
    exact hafter
  · rw [run_bind, run_bind, hrun, hrun']

/-- An action elsewhere; what follows is to spare the endpoint after the answers that it can get
while the endpoint holds no name. -/
theorem spares_act_bind {action : Action} {k : action.Answer → Program α}
    (h : action.Elsewhere e) (hk : ∀ time store, store.Unbound e →
      (k (action.perform time store).1).Spares e) : (act action >>= k).Spares e := by
  intro time store hunbound
  obtain ⟨hafter, hrun⟩ := hk time store hunbound time _ (h.unbound hunbound)
  refine ⟨hafter, fun f => ?_⟩
  rw [run_act_bind, run_act_bind, Action.perform_update h]
  exact hrun f

/-! ### What sessions do spares others -/

/-- Who is superseded has held a name. -/
theorem spares_takeOver {x : EndpointId} (hne : x ≠ e) (name : Name) :
    (takeOver name x).Spares e := by
  refine spares_act_bind hne fun time store hunbound => ?_
  cases hsuperseded : ((Action.register name x).perform time store).1 with
  | none => exact spares_pure
  | some previous =>
    have hother : previous ≠ e := by
      rintro rfl
      have hlookup : store.registry.lookup name = some previous :=
        (Option.filter_eq_some_iff.1 hsuperseded).1
      exact hunbound name hlookup
    exact spares_act_bind hother fun _ _ _ => spares_pure

theorem spares_handOut (delivery : Delivery) (report : Report) {bindings : List Binding}
    (h : e ∉ bindings.map Prod.snd) : (handOut delivery report bindings).Spares e := by
  induction bindings generalizing report with
  | nil => exact spares_pure
  | cons binding rest ih =>
    obtain ⟨name, x⟩ := binding
    rw [List.map_cons, List.mem_cons, not_or] at h
    obtain ⟨hne, hrest⟩ := h
    refine spares_act_bind (Ne.symm hne) fun time store _ => ?_
    cases ((Action.deliver x delivery).perform time store).1 with
    | ok u => exact ih _ hrest
    | error refusal =>
      refine spares_act_bind trivial fun _ _ _ => ?_
      exact spares_act_bind (Ne.symm hne) fun _ _ _ => ih _ hrest

/-- A broadcast goes to those who hold names. -/
theorem spares_broadcast (message : Message) : (broadcast message).Spares e := by
  refine spares_act_bind trivial fun time _ _ => ?_
  refine spares_act_bind trivial fun _ store hunbound => spares_handOut _ _ fun hm => ?_
  obtain ⟨n, hb, _⟩ := Store.mem_recipients.1 hm
  exact hunbound n hb

end Program

namespace Session

open Program

variable {session : Session} {e : EndpointId}

theorem spares_nextEvent (hne : session.endpoint ≠ e) : session.nextEvent.Spares e := by
  refine spares_act_bind trivial fun time store _ => ?_
  cases (Action.isStopped.perform time store).1 with
  | true => exact spares_pure
  | false =>
    refine spares_act_bind hne fun time store _ => ?_
    cases ((Action.isClosed session.endpoint).perform time store).1 with
    | true => exact spares_pure
    | false =>
      refine spares_act_bind trivial fun time store _ => ?_
      cases ((Action.receive session.inbound).perform time store).1 <;> exact spares_pure

theorem spares_onEvent (policy : GreetingPolicy) (hne : session.endpoint ≠ e) (event : Event) :
    (session.onEvent policy event).Spares e := by
  unfold onEvent
  split
  · refine (spares_takeOver hne _).bind fun _ => ?_
    cases policy with
    | broadcast => exact (spares_broadcast _).bind fun _ => spares_pure
    | registerOnly => exact spares_pure
  · exact spares_pure
  · exact (spares_broadcast _).bind fun _ => spares_pure
  · exact spares_pure
  · exact spares_pure

theorem spares_wrapUp (hne : session.endpoint ≠ e) (state : State) :
    (session.wrapUp state).Spares e := by
  have hrelease : (session.release state).Spares e := by
    cases state with
    | closing name outcome => exact spares_act_bind trivial fun _ _ _ => spares_pure
    | _ => exact spares_pure
  refine hrelease.bind fun state => ?_
  cases state with
  | closed outcome =>
    refine spares_act_bind hne fun _ _ _ => ?_
    exact spares_act_bind hne fun _ _ _ => spares_pure
  | _ => exact spares_pure

/-- **A session's turn spares every other endpoint that holds no name.** -/
theorem spares_turn (policy : GreetingPolicy) (hne : session.endpoint ≠ e) :
    (session.turn policy).Spares e := by
  refine (spares_nextEvent hne).bind fun event => ?_
  cases event with
  | none => exact spares_pure
  | some event =>
    refine (spares_onEvent policy hne event).bind fun state => ?_
    exact (spares_wrapUp hne state).bind fun _ => spares_pure

/-! ### Ends that concern nobody else -/

/-- How a session ends that did not come to it by itself. -/
def cutOff (session : Session) (store : Store) : Session :=
  { session with state := .closed (if store.stopped then .cancelled else .evicted) }

/-- What a session finds that has to end, since the hub has stopped or its endpoint is closed, makes
it end and changes nothing. -/
theorem exists_ending {store : Store} (h : store.stopped = true ∨ store.Closed session.endpoint)
    (time : Timestamp) : ∃ ending : Ending,
      session.nextEvent.run time store = (some (.ending ending), store) ∧
        ∀ named, ending.outcome named = if store.stopped then .cancelled else .evicted := by
  cases hs : store.stopped with
  | true => exact ⟨.cancelled, (nextEvent_stopped time hs).1, fun _ => rfl⟩
  | false =>
    have hclosed : store.Closed session.endpoint :=
      h.resolve_left (by rw [hs]; exact Bool.false_ne_true)
    exact ⟨.evicted, (nextEvent_closed time hs hclosed).1, fun _ => rfl⟩

theorem next_of_ending (hrests : session.Rests) (hover : session.isOver = false) {ending : Ending}
    {outcome : Outcome} (h : ∀ named, ending.outcome named = outcome) :
    session.state.next (.ending ending) = .closed outcome := by
  cases hs : session.state with
  | awaitingHello => exact congrArg State.closed (h false)
  | active name => exact congrArg State.closed (h true)
  | closing name outcome => exact absurd hs (hrests name outcome)
  | closed outcome =>
    rw [isOver, hs] at hover
    cases hover

/-- What such an end leaves of its endpoint. -/
def vacate (endpoint : Endpoint) : Endpoint := endpoint.close.endWait

/-- A session that ends and whose endpoint holds no name changes nothing but the endpoint. -/
theorem run_carryOut_of_unbound {policy : GreetingPolicy} {ending : Ending} {time : Timestamp}
    {store : Store} (hrests : session.Rests) (hover : session.isOver = false)
    (hunbound : store.Unbound session.endpoint) :
    ((carryOut session.endpoint (deeds policy session.state (.ending ending))).run time store).2 =
      store.update session.endpoint vacate := by
  have hfinish : ((carryOut session.endpoint [.finish]).run time store).2 =
      store.update session.endpoint vacate := Store.update_update store _ _ _
  cases hs : session.state with
  | awaitingHello => exact hfinish
  | active name =>
    have hkept : (Action.removeIfCurrent name session.endpoint).perform time store =
        (false, store) := by
      have hfree : store.registry.lookup name ≠ some session.endpoint := hunbound name
      simp only [Action.perform, Registry.removeIfCurrent, if_neg hfree]
    change ((carryOut session.endpoint [.finish]).run time
      ((Action.removeIfCurrent name session.endpoint).perform time store).2).2 = _
    rw [hkept]
    exact hfinish
  | closing name outcome => exact absurd hs (hrests name outcome)
  | closed outcome =>
    rw [isOver, hs] at hover
    cases hover

end Session

namespace Hub

/-- A running session that has to end, since the hub has stopped or its endpoint is closed, and
whose endpoint holds no name. -/
structure Doomed (hub : Hub) (id : SessionId) (session : Session) : Prop where
  session_eq : hub.session? id = some session
  not_over : session.isOver = false
  rests : session.Rests
  has_endpoint : hub.store.Has session.endpoint
  unbound : hub.store.Unbound session.endpoint
  ends : hub.store.stopped = true ∨ hub.store.Closed session.endpoint

/-- The hub after the end of such a session. -/
def cutOff (hub : Hub) (id : SessionId) (session : Session) : Hub :=
  { hub with
    store := hub.store.update session.endpoint Session.vacate
    sessions := hub.sessions.setIfInBounds id.index (session.cutOff hub.store) }

variable {hub after : Hub} {id other : SessionId} {session : Session}

namespace Doomed

variable (h : hub.Doomed id session)
include h

theorem turn_eq (time : Timestamp) : hub.turn time id = some (hub.cutOff id session) := by
  obtain ⟨ending, hnext, houtcome⟩ := Session.exists_ending h.ends time
  have hstate := Session.next_of_ending h.rests h.not_over houtcome
  rw [turn_of_heard? h.session_eq h.not_over (by rw [hnext]), hnext,
    Session.run_handle h.rests h.not_over,
    Session.run_carryOut_of_unbound h.rests h.not_over h.unbound, hstate]
  rfl

/-- **Somebody else's turn and such an end can come in either order.** -/
theorem turn_cutOff {turning : Session} (hne : other ≠ id)
    (hturning : hub.session? other = some turning) (hendpoint : turning.endpoint ≠ session.endpoint)
    {time : Timestamp} (hturn : hub.turn time other = some after) :
    after.Doomed id session ∧
      (hub.cutOff id session).turn time other = some (after.cutOff id session) := by
  obtain ⟨session', turned, hsession', hover, hrun, rfl⟩ := Stage.turn_eq_some hturn
  cases hturning.symm.trans hsession'
  have hindex : other.index ≠ id.index := fun heq => hne (congrArg SessionId.mk heq)
  have hspares := (turning.spares_turn hub.settings.policy hendpoint) time hub.store h.unbound
  have hstopped : ((turning.turn hub.settings.policy).run time hub.store).2.stopped =
      hub.store.stopped := (turning.within_turn _).stopped_eq (by decide)
  refine ⟨⟨?_, h.not_over, h.rests, Program.has_run h.has_endpoint, hspares.1, ?_⟩, ?_⟩
  · exact (Array.getElem?_setIfInBounds_ne hindex).trans h.session_eq
  · rcases h.ends with hs | hc
    · exact .inl (hstopped.trans hs)
    · exact .inr (Program.closed_run h.has_endpoint hc)
  · have hstill : (hub.cutOff id session).session? other = some turning :=
      (Array.getElem?_setIfInBounds_ne (Ne.symm hindex)).trans hturning
    have hsame : (turning.turn (hub.cutOff id session).settings.policy).run time
        (hub.cutOff id session).store = _ := hspares.2 Session.vacate
    rw [turn_of_running hstill hover, hsame, hrun, Option.map_some]
    simp only [cutOff, Session.cutOff, hstopped, Array.setIfInBounds_comm _ _ hindex]

end Doomed

end Hub

end BroadcastChat
