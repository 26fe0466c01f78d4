/-
# Time stamps decide nothing

A delivery carries the time at which it was broadcast, and nothing that the hub
does depends on it. So what a program does to a store it does, but for the time
stamps, to the store without them (`Program.Untimes`), and a session takes the
same turn on a hub whose deliveries carry other time stamps.

Key definitions: `Endpoint.untimed`, `Store.untimed`, `Hub.untimed`,
`Program.Untimes`.
Key theorems: `Program.Untimes.run`, `Session.untimes_turn`, `Hub.untimed_turn`.
-/
import BroadcastChat.Proofs.Kinds
import BroadcastChat.Hub

namespace BroadcastChat

/-! ### Without time stamps -/

/-- The delivery as if it were broadcast at the epoch. -/
def Delivery.untimed (delivery : Delivery) : Delivery := { delivery with receivedAt := ⟨0⟩ }

namespace Endpoint

/-- The endpoint with its unread deliveries untimed. -/
def untimed (endpoint : Endpoint) : Endpoint :=
  { endpoint with
    unread := endpoint.unread.map Delivery.untimed
    unread_le := by
      rw [List.length_map]
      exact endpoint.unread_le }

theorem isClosed_untimed (endpoint : Endpoint) : endpoint.untimed.isClosed = endpoint.isClosed :=
  rfl

theorem beginWait_untimed (endpoint : Endpoint) :
    endpoint.beginWait.untimed = endpoint.untimed.beginWait := by
  unfold beginWait
  rw [isClosed_untimed]
  split <;> rfl

theorem deliver_untimed (endpoint : Endpoint) (delivery : Delivery) :
    endpoint.untimed.deliver delivery.untimed = (endpoint.deliver delivery).map untimed := by
  have hlength : endpoint.untimed.unread.length = endpoint.unread.length := List.length_map _
  unfold deliver
  rw [isClosed_untimed]
  by_cases hc : endpoint.isClosed = true
  · rw [if_pos hc, if_pos hc]
    rfl
  · rw [if_neg hc, if_neg hc]
    by_cases hlt : endpoint.unread.length < endpoint.bound
    · rw [dif_pos hlt, dif_pos (by rw [hlength]; exact hlt)]
      simp [Except.map, untimed]
    · rw [dif_neg hlt, dif_neg (by rw [hlength]; exact hlt)]
      rfl

end Endpoint

namespace Store

/-- The store with all its deliveries untimed. -/
def untimed (store : Store) : Store :=
  { store with endpoints := store.endpoints.map Endpoint.untimed }

theorem endpoint_untimed (store : Store) (id : EndpointId) :
    store.untimed.endpoint id = (store.endpoint id).untimed := by
  unfold endpoint untimed
  rw [Array.getElem?_map]
  cases store.endpoints[id.index]? <;> rfl

theorem update_untimed (store : Store) (id : EndpointId) (f g : Endpoint → Endpoint)
    (h : ∀ endpoint, (f endpoint).untimed = g endpoint.untimed) :
    (store.update id f).untimed = store.untimed.update id g := by
  unfold update untimed
  congr 1
  refine Array.ext (by simp) fun i hi hi' => ?_
  simp only [Array.getElem_map, Array.getElem_modify]
  split
  · exact h _
  · rfl

theorem newEndpoint_untimed (store : Store) (capacity : Nat) :
    store.untimed.newEndpoint capacity =
      ((store.newEndpoint capacity).1, (store.newEndpoint capacity).2.untimed) := by
  simp [newEndpoint, untimed, Endpoint.untimed, Endpoint.new]

end Store

/-! ### Actions -/

namespace Action

variable {time : Timestamp} {store : Store} {action : Action}

/-- But for deliveries and the clock, an action does the same without time stamps. -/
theorem perform_untimed (hdeliver : action.kind ≠ .deliver) (hnow : action.kind ≠ .now) :
    action.perform ⟨0⟩ store.untimed =
      ((action.perform time store).1, (action.perform time store).2.untimed) := by
  cases action with
  | deliver e d => exact absurd rfl hdeliver
  | now => exact absurd rfl hnow
  | create capacity => exact store.newEndpoint_untimed capacity
  | close e =>
    simp only [perform, Store.endpoint_untimed]
    rw [Store.update_untimed store e Endpoint.close Endpoint.close fun _ => rfl]
    rfl
  | isClosed e =>
    simp only [perform, Store.endpoint_untimed, Endpoint.isClosed_untimed]
  | drop e =>
    simp only [perform]
    rw [Store.update_untimed store e Endpoint.drop Endpoint.drop fun _ => rfl]
  | beginWait e =>
    simp only [perform]
    rw [Store.update_untimed store e _ _ Endpoint.beginWait_untimed]
  | endWait e =>
    simp only [perform]
    rw [Store.update_untimed store e Endpoint.endWait Endpoint.endWait fun _ => rfl]
  | _ => rfl

theorem perform_deliver_untimed (e : EndpointId) (delivery : Delivery) :
    (Action.deliver e delivery.untimed).perform ⟨0⟩ store.untimed =
      (((Action.deliver e delivery).perform time store).1,
        ((Action.deliver e delivery).perform time store).2.untimed) := by
  simp only [perform, Store.endpoint_untimed, Endpoint.deliver_untimed]
  cases (store.endpoint e).deliver delivery with
  | ok after =>
    have hupdate := Store.update_untimed store e (fun _ => after) (fun _ => after.untimed)
      fun _ => rfl
    exact Prod.ext rfl hupdate.symm
  | error refusal => rfl

end Action

/-! ### Programs -/

namespace Program

variable {α β : Type}

/-- The second program does what the first one does, but its deliveries are untimed, whatever the
first one reads off the clock. -/
inductive Untimes : Program α → Program α → Prop
  | done (value : α) : Untimes (.done value) (.done value)
  | step {action : Action} {next next' : action.Answer → Program α}
      (hdeliver : action.kind ≠ .deliver) (hnow : action.kind ≠ .now)
      (h : ∀ answer, Untimes (next answer) (next' answer)) :
      Untimes (.step action next) (.step action next')
  | deliver {e : EndpointId} {delivery : Delivery} {next next' : Except Refusal Unit → Program α}
      (h : ∀ answer, Untimes (next answer) (next' answer)) :
      Untimes (.step (.deliver e delivery) next) (.step (.deliver e delivery.untimed) next')
  | now {next next' : Timestamp → Program α} (h : ∀ time, Untimes (next time) (next' ⟨0⟩)) :
      Untimes (.step .now next) (.step .now next')

/-- **What a program does it does to the untimed store as well**, but for the time stamps. -/
theorem Untimes.run {p q : Program α} (h : p.Untimes q) (time : Timestamp) (store : Store) :
    q.run ⟨0⟩ store.untimed = ((p.run time store).1, (p.run time store).2.untimed) := by
  induction h generalizing store with
  | done value => rfl
  | step hdeliver hnow _ ih =>
    rw [run_step, run_step, Action.perform_untimed hdeliver hnow]
    exact ih _ _
  | deliver _ ih =>
    rw [run_step, run_step, Action.perform_deliver_untimed]
    exact ih _ _
  | now _ ih => exact ih time store

theorem Untimes.bind {p q : Program α} {k l : α → Program β} (h : p.Untimes q)
    (hk : ∀ value, (k value).Untimes (l value)) : (p >>= k).Untimes (q >>= l) := by
  induction h with
  | done value => exact hk value
  | step hdeliver hnow _ ih => exact .step hdeliver hnow ih
  | deliver _ ih => exact .deliver ih
  | now _ ih => exact .now ih

/-- A program that delivers nothing and does not look at the clock. -/
theorem Within.untimes {kinds : List Action.Kind} {p : Program α} (h : p.Within kinds)
    (hdeliver : .deliver ∉ kinds) (hnow : .now ∉ kinds) : p.Untimes p := by
  induction p with
  | done value => exact .done value
  | step action next ih =>
    refine .step (fun heq => hdeliver (heq ▸ h.1)) (fun heq => hnow (heq ▸ h.1)) fun answer => ?_
    exact ih answer (h.2 answer)

theorem untimes_pure (value : α) : (pure value : Program α).Untimes (pure value) := .done value

theorem untimes_handOut (delivery : Delivery) (report : Report) (bindings : List Binding) :
    (handOut delivery report bindings).Untimes (handOut delivery.untimed report bindings) := by
  induction bindings generalizing report with
  | nil => exact untimes_pure report
  | cons binding rest ih =>
    obtain ⟨name, endpoint⟩ := binding
    refine .deliver fun answer => ?_
    cases answer with
    | ok u => exact ih _
    | error refusal =>
      refine .step (by simp) (by simp) fun removed => ?_
      exact .step (by simp) (by simp) fun wasOpen => ih _

theorem untimes_broadcast (message : Message) :
    (broadcast message).Untimes (broadcast message) := by
  refine .now fun time => ?_
  exact .step (by simp) (by simp) fun bindings => untimes_handOut ⟨message, time⟩ .empty bindings

end Program

/-! ### Sessions and hubs -/

namespace Session

open Program

theorem untimes_greet (policy : GreetingPolicy) (session : Session) (hello : Message) :
    (session.greet policy hello).Untimes (session.greet policy hello) := by
  refine Untimes.bind ((within_takeOver _ _).untimes (by decide) (by decide)) fun _ => ?_
  cases policy with
  | broadcast => exact (untimes_broadcast hello).bind fun _ => untimes_pure _
  | registerOnly => exact untimes_pure _

theorem untimes_onEvent (policy : GreetingPolicy) (session : Session) (event : Event) :
    (session.onEvent policy event).Untimes (session.onEvent policy event) := by
  unfold onEvent
  split
  · exact untimes_greet policy session _
  · exact untimes_pure _
  · exact (untimes_broadcast _).bind fun _ => untimes_pure _
  · exact untimes_pure _
  · exact untimes_pure _

theorem untimes_turn (policy : GreetingPolicy) (session : Session) :
    (session.turn policy).Untimes (session.turn policy) := by
  refine Untimes.bind (session.within_nextEvent.untimes (by decide) (by decide)) fun event => ?_
  cases event with
  | none => exact untimes_pure none
  | some event =>
    refine (untimes_onEvent policy session event).bind fun state => ?_
    refine Untimes.bind ((within_wrapUp session state).untimes (by decide) (by decide))
      fun state => ?_
    exact untimes_pure _

end Session

namespace Hub

/-- The hub with all its deliveries untimed. -/
def untimed (hub : Hub) : Hub := { hub with store := hub.store.untimed }

/-- **A session takes the same turn without time stamps.** -/
theorem untimed_turn (time : Timestamp) (hub : Hub) (id : SessionId) :
    hub.untimed.turn ⟨0⟩ id = (hub.turn time id).map untimed := by
  cases hsession : hub.session? id with
  | none =>
    have huntimed : hub.untimed.session? id = none := hsession
    rw [turn_of_none hsession, turn_of_none huntimed, Option.map_none]
  | some session =>
    have huntimed : hub.untimed.session? id = some session := hsession
    cases hover : session.isOver with
    | true => rw [turn_of_over hsession hover, turn_of_over huntimed hover, Option.map_none]
    | false =>
      have hrun : (session.turn hub.untimed.settings.policy).run ⟨0⟩ hub.untimed.store = _ :=
        (session.untimes_turn hub.settings.policy).run time hub.store
      rw [turn_of_running hsession hover, turn_of_running huntimed hover, hrun, Option.map_map]
      rfl

/-- What a session can do, it can do at any time, with the same result but for the time stamps. -/
theorem turn_congr {hub hub' : Hub} (h : hub.untimed = hub'.untimed) (time time' : Timestamp)
    (id : SessionId) : (hub.turn time id).map untimed = (hub'.turn time' id).map untimed := by
  rw [← untimed_turn, ← untimed_turn, h]

end Hub

end BroadcastChat
