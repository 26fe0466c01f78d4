/-
# Who waits for a closure

What holds the stream of a closed endpoint open are the waits for its closure.
A session begins one for its own endpoint when it starts and gives it up when
it ends, and nobody else waits for anything. So at every stage of a run the
endpoints that are waited for are those of sessions that have not ended, once
each (`Stage.Awaited`).

Key definitions: `Action.WaitsFor`, `Stage.Awaited`.
Key theorems: `Program.waits_run`, `Stage.Awaited.step`, `Stage.awaited_run`.
-/
import BroadcastChat.Proofs.Inflow
import BroadcastChat.Proofs.Speech

namespace BroadcastChat

/-- Whether the action begins or gives up a wait for the endpoint's closure. -/
def Action.WaitsFor (e : EndpointId) : Action → Prop
  | .beginWait x | .endWait x => x = e
  | _ => False

namespace Action

variable {time : Timestamp} {store : Store} {action : Action} {e : EndpointId}

theorem not_waitsFor_of_kind (h : action.kind ≠ .other) : ¬action.WaitsFor e := by
  intro hw
  cases action <;> first | exact hw | exact h rfl

theorem waits_perform (h : ¬action.WaitsFor e) :
    ((action.perform time store).2.endpoint e).waits = (store.endpoint e).waits := by
  cases action with
  | create c =>
    by_cases he : e = (store.newEndpoint c).1
    · subst he
      rw [Store.endpoint_of_not_has (store.not_has_newEndpoint c)]
      exact (congrArg Endpoint.waits (store.endpoint_newEndpoint_self c)).trans rfl
    · exact congrArg Endpoint.waits (store.endpoint_newEndpoint_of_ne c he)
  | deliver x d =>
    rcases perform_deliver time store x d with hsame | ⟨after, hd, htaken⟩
    · rw [hsame]
    · obtain ⟨_, rfl⟩ := Endpoint.eq_of_deliver hd
      rw [htaken]
      exact Store.update_congr Endpoint.waits rfl e
  | close x => exact Store.update_congr Endpoint.waits rfl e
  | drop x => exact Store.update_congr Endpoint.waits rfl e
  | beginWait x =>
    have hne : e ≠ x := fun he => h he.symm
    exact congrArg Endpoint.waits (Store.endpoint_update_of_ne _ hne)
  | endWait x =>
    have hne : e ≠ x := fun he => h he.symm
    exact congrArg Endpoint.waits (Store.endpoint_update_of_ne _ hne)
  | _ => rfl

end Action

namespace Program

variable {α : Type} {p : Program α} {time : Timestamp} {store : Store} {e : EndpointId}

theorem waits_run (h : ∀ event ∈ p.trace time store, ¬event.action.WaitsFor e) :
    ((p.run time store).2.endpoint e).waits = (store.endpoint e).waits := by
  induction p generalizing store with
  | done value => rfl
  | step action next ih =>
    rw [run_step, ih _ fun event hm => h event (List.mem_cons_of_mem _ hm)]
    exact Action.waits_perform (h _ List.mem_cons_self)

/-! ### Programs that wait for nothing -/

/-- The programs that wait for nothing. -/
def Patient (p : Program α) : Prop := p.Only fun action => ∀ e, ¬action.WaitsFor e

theorem Within.patient {kinds : List Action.Kind} (h : p.Within kinds) (hk : .other ∉ kinds) :
    p.Patient :=
  h.only fun _ hm _ => Action.not_waitsFor_of_kind fun heq => hk (heq ▸ hm)

theorem Patient.waits_eq (h : p.Patient) (e : EndpointId) :
    ((p.run time store).2.endpoint e).waits = (store.endpoint e).waits :=
  waits_run fun _ hm => h.of_mem_trace hm e

theorem patient_broadcast (message : Message) : (broadcast message).Patient := by
  refine only_act_bind (fun _ => id) fun time => ?_
  refine only_act_bind (fun _ => id) fun recipients => ?_
  exact (within_handOut _ _ _).patient (by decide)

theorem patient_submit (message : Message) : (submit message).Patient := by
  refine only_act_bind (fun _ => id) fun holder => ?_
  cases holder with
  | none => exact only_pure
  | some endpoint =>
    refine only_act_bind (fun _ => id) fun closed => ?_
    cases closed with
    | true => exact only_act_bind (fun _ => id) fun _ => only_pure
    | false => exact Only.bind (patient_broadcast message) fun _ => only_pure

theorem patient_openListener (capacity : Nat) (name : Name) :
    (openListener capacity name).Patient := by
  have hclosed : (closedListener name).Patient := (within_closedListener name).patient (by decide)
  refine only_act_bind (fun _ => id) fun stopped => ?_
  cases stopped with
  | true => exact hclosed
  | false =>
    refine Only.bind ((within_subscribe capacity name).patient (by decide)) fun listener => ?_
    refine only_act_bind (fun _ => id) fun stopped => ?_
    cases stopped with
    | true => exact Only.bind ((within_letGo listener).patient (by decide)) fun _ => hclosed
    | false => exact only_pure

end Program

namespace Session

open Program

variable {time : Timestamp} {store : Store} {policy : GreetingPolicy} {session : Session}

theorem patient_nextEvent (session : Session) : session.nextEvent.Patient := by
  refine session.only_nextEvent.mono fun action hlooks e => ?_
  rcases hlooks with rfl | rfl | rfl <;> exact id

/-- A session that goes on keeps its wait. -/
theorem patient_deeds_of_message (policy : GreetingPolicy) (session : Session)
    (message : Message) :
    (carryOut session.endpoint (deeds policy session.state (.message message))).Patient := by
  have hbroadcast : ∀ m, ((Deed.broadcast m).program session.endpoint).Patient :=
    fun m => (patient_broadcast m).bind fun _ => only_pure
  refine only_carryOut fun deed hm => ?_
  cases hs : session.state with
  | awaitingHello =>
    rw [hs] at hm
    rcases List.mem_cons.1 hm with rfl | hm
    · exact (within_takeOver _ _).patient (by decide)
    · cases policy with
      | broadcast =>
        rw [List.mem_singleton.1 hm]
        exact hbroadcast message
      | registerOnly => cases hm
  | active name =>
    rw [hs] at hm
    rw [List.mem_singleton.1 hm]
    exact hbroadcast _
  | closing name outcome =>
    rw [hs] at hm
    cases hm
  | closed outcome =>
    rw [hs] at hm
    cases hm

theorem waits_finish (time : Timestamp) (store : Store) (e x : EndpointId) :
    (((Deed.finish.program e).run time store).2.endpoint x).waits =
      if x = e then (store.endpoint x).waits - 1 else (store.endpoint x).waits := by
  have hclose : ((store.update e Endpoint.close).endpoint x).waits = (store.endpoint x).waits :=
    Store.update_congr Endpoint.waits rfl x
  have hrun : ((Deed.finish.program e).run time store).2 =
      (store.update e Endpoint.close).update e Endpoint.endWait := rfl
  rw [hrun, Store.endpoint_update]
  by_cases hx : x = e
  · rw [if_pos hx]
    by_cases hh : (store.update e Endpoint.close).Has e
    · rw [if_pos ⟨hx, hh⟩, ← hclose]
      rfl
    · rw [if_neg fun h => hh h.2, hclose, hx,
        Store.endpoint_of_not_has fun h => hh (Store.has_update.2 h)]
      rfl
  · rw [if_neg hx, if_neg fun h => hx h.1, hclose]

/-- A session that ends gives up its wait. -/
theorem waits_deeds_of_ending (hrests : session.Rests) (hover : session.isOver = false)
    (ending : Ending) (x : EndpointId) :
    (((carryOut session.endpoint (deeds policy session.state (.ending ending))).run time
      store).2.endpoint x).waits =
      if x = session.endpoint then (store.endpoint x).waits - 1 else (store.endpoint x).waits := by
  cases hs : session.state with
  | awaitingHello => exact waits_finish _ _ _ _
  | active name =>
    have hrelease : ((Deed.release name).program session.endpoint).Patient :=
      only_act_bind (fun _ h => h) fun _ => only_pure
    have hsame : ((((Deed.release name).program session.endpoint).run time
        store).2.endpoint x).waits = (store.endpoint x).waits := hrelease.waits_eq x
    rw [← hsame]
    have hfinish := fun store => waits_finish time store session.endpoint x
    exact hfinish _
  | closing name outcome => exact absurd hs (hrests name outcome)
  | closed outcome =>
    rw [isOver, hs] at hover
    cases hover

end Session

/-! ### Who is waited for -/

namespace Stage

variable {stage : Stage}

/-- An endpoint is waited for at most once, and then its session has not ended. -/
structure Awaited (stage : Stage) : Prop where
  once : ∀ e, (stage.hub.store.endpoint e).waits ≤ 1
  running : ∀ e, (stage.hub.store.endpoint e).waits ≠ 0 →
    ∃ id session, stage.hub.session? id = some session ∧ session.endpoint = e ∧
      session.isOver = false

theorem awaited_new (settings : HubSettings) : (new settings).Awaited where
  once _ := Nat.zero_le 1
  running _ h := absurd rfl h

namespace Awaited

variable (h : stage.Awaited)
include h

/-- A move that leaves waits and sessions alone. -/
theorem of_same {other : Hub} {listeners : List Listener}
    (hwaits : ∀ e, (other.store.endpoint e).waits = (stage.hub.store.endpoint e).waits)
    (hsessions : other.sessions = stage.hub.sessions) :
    (⟨other, listeners⟩ : Stage).Awaited where
  once e := (hwaits e).trans_le (h.once e)
  running e he := by
    obtain ⟨id, session, hs, hrest⟩ := h.running e ((hwaits e).symm.trans_ne he)
    refine ⟨id, session, ?_, hrest⟩
    rw [Hub.session?, hsessions]
    exact hs

theorem of_patient {α : Type} (p : Program α) (hp : p.Patient) {listeners : List Listener}
    (time : Timestamp) : (⟨(stage.hub.perform time p).2, listeners⟩ : Stage).Awaited :=
  h.of_same (fun e => hp.waits_eq e) rfl

theorem step_openSession (time : Timestamp) : (stage.step time .openSession).Awaited := by
  -- the new endpoint is waited for once, and all others as before
  let fresh := (stage.hub.store.newEndpoint stage.hub.settings.capacity).1
  have hother : ∀ e, e ≠ fresh → ((stage.step time .openSession).hub.store.endpoint e).waits =
      (stage.hub.store.endpoint e).waits := fun e he =>
    congrArg Endpoint.waits ((Store.endpoint_update_of_ne _ he).trans
      (stage.hub.store.endpoint_newEndpoint_of_ne stage.hub.settings.capacity he))
  have hsize : (stage.step time .openSession).hub.session? ⟨stage.hub.sessions.size⟩ =
      some ⟨fresh, stage.hub.store.newInbound.1, .awaitingHello⟩ := Array.getElem?_push_size
  refine ⟨fun e => ?_, fun e he => ?_⟩
  · by_cases hfresh : e = fresh
    · have hnew : (stage.step time .openSession).hub.store.endpoint fresh =
          (Endpoint.new stage.hub.settings.capacity).beginWait := by
        have hhas : (stage.hub.store.newEndpoint stage.hub.settings.capacity).2.Has fresh :=
          Store.has_newEndpoint.2 (.inr rfl)
        refine (Store.endpoint_update_self Endpoint.beginWait hhas).trans ?_
        rw [Store.endpoint_newEndpoint_self]
      rw [hfresh, hnew]
      exact Nat.le_refl 1
    · rw [hother e hfresh]
      exact h.once e
  · by_cases hfresh : e = fresh
    · exact ⟨_, _, hsize, hfresh.symm, rfl⟩
    · rw [hother e hfresh] at he
      obtain ⟨id, session, hs, hend, hover⟩ := h.running e he
      exact ⟨id, session, session_step_of_ne hs time (by simp), hend, hover⟩

/-- Whoever else is waited for has a session that does not move. -/
theorem running_step_turn {id : SessionId} {session : Session}
    (hsession : stage.hub.session? id = some session) (time : Timestamp) {e : EndpointId}
    (hne : e ≠ session.endpoint) (he : (stage.hub.store.endpoint e).waits ≠ 0) :
    ∃ id' session', (stage.step time (.turn id)).hub.session? id' = some session' ∧
      session'.endpoint = e ∧ session'.isOver = false := by
  obtain ⟨id', session', hs', rfl, hover⟩ := h.running e he
  have hmove : Move.turn id ≠ .turn id' := by
    rintro heq
    cases heq
    rw [hsession] at hs'
    cases hs'
    exact hne rfl
  exact ⟨id', session', session_step_of_ne hs' time hmove, rfl, hover⟩

theorem step_turn {log : List Event} (hsound : stage.Sound log) (time : Timestamp)
    (id : SessionId) : (stage.step time (.turn id)).Awaited := by
  cases hheard : stage.hub.heard? time id with
  | none =>
    simp only [Stage.step, Hub.turn_of_not_heard? hheard, Option.getD_none]
    exact h
  | some event =>
    obtain ⟨session, hsession, hover, hnext⟩ := Hub.session_of_heard? hheard
    have hrests := hsound.rests session (mem_sessions hsession)
    obtain ⟨_, hstore, hafter⟩ := Moment.turn_of_event hsession hover hnext
    rw [Session.run_handle hrests hover] at hstore hafter
    dsimp only [Moment.after] at hstore hafter
    have hlooked : ∀ e, ((session.nextEvent.run time stage.hub.store).2.endpoint e).waits =
        (stage.hub.store.endpoint e).waits := session.patient_nextEvent.waits_eq
    cases event with
    | message message =>
      have hsame : ∀ e, ((stage.step time (.turn id)).hub.store.endpoint e).waits =
          (stage.hub.store.endpoint e).waits := by
        intro e
        rw [hstore, ← hlooked]
        exact (Session.patient_deeds_of_message _ session message).waits_eq e
      refine ⟨fun e => (hsame e).trans_le (h.once e), fun e he => ?_⟩
      rw [hsame] at he
      by_cases hown : e = session.endpoint
      · refine ⟨id, _, hafter, hown.symm, ?_⟩
        rw [Session.isOver]
        cases hs : session.state with
        | awaitingHello => rfl
        | active name => rfl
        | closing name outcome => exact absurd hs (hrests name outcome)
        | closed outcome =>
          rw [Session.isOver, hs] at hover
          cases hover
      · exact h.running_step_turn hsession time hown he
    | ending ending =>
      have hwaits : ∀ e, ((stage.step time (.turn id)).hub.store.endpoint e).waits =
          if e = session.endpoint then (stage.hub.store.endpoint e).waits - 1
          else (stage.hub.store.endpoint e).waits := by
        intro e
        rw [hstore, ← hlooked]
        exact Session.waits_deeds_of_ending hrests hover ending e
      refine ⟨fun e => ?_, fun e he => ?_⟩
      · have honce := h.once e
        rw [hwaits]
        split <;> omega
      · rw [hwaits] at he
        by_cases hown : e = session.endpoint
        · have honce := h.once e
          rw [if_pos hown] at he
          omega
        · rw [if_neg hown] at he
          exact h.running_step_turn hsession time hown he

/-- **Only sessions that have not ended wait**, in every move. -/
theorem step {log : List Event} (hsound : stage.Sound log) (time : Timestamp) (move : Move) :
    (stage.step time move).Awaited := by
  cases move with
  | submit message => exact h.of_patient _ (Program.patient_submit message) time
  | openListener name => exact h.of_patient _ (Program.patient_openListener _ name) time
  | letGo listener =>
    simp only [Stage.step]
    split
    · exact h.of_patient _ ((Program.within_letGo listener).patient (by decide)) time
    · exact h
  | openSession => exact h.step_openSession time
  | arrive id arrival =>
    exact h.of_same (fun e => congrArg Endpoint.waits (endpoint_send _ _ _ e))
      (sessions_send _ _ _)
  | endInput id =>
    exact h.of_same (fun e => congrArg Endpoint.waits (endpoint_endInput _ _ e))
      (sessions_endInput _ _)
  | turn id => exact h.step_turn hsound time id
  | read id =>
    exact h.of_same (fun e => Store.update_congr Endpoint.waits (Endpoint.waits_read _) e) rfl
  | dropOutbound id =>
    simp only [Stage.step]
    split
    · exact h
    · rename_i session hsession
      have hdrop : (Program.drop session.endpoint).Patient := ⟨fun _ h => h, fun _ => trivial⟩
      exact h.of_patient _ hdrop time
  | shutDown => exact h.of_patient _ (Program.within_shutDown.patient (by decide)) time

end Awaited

theorem awaited_run (settings : HubSettings) (moves : List (Timestamp × Move)) :
    ((new settings).run moves).Awaited := by
  have hboth : ((new settings).run moves).Awaited ∧ ∃ log, ((new settings).run moves).Sound log :=
    invariant_run (motive := fun stage => stage.Awaited ∧ ∃ log, stage.Sound log)
      (fun stage time move ⟨h, log, hsound⟩ => ⟨h.step hsound time move, _, hsound.step time move⟩)
      moves ⟨awaited_new settings, [], sound_new settings⟩
  exact hboth.1

end Stage

end BroadcastChat
