/-
# What one action does to the store

Most actions are quiet (`Action.Quiet`): they change no binding, shut no
endpoint, make none and do not stop the hub, so that whatever is known about
who holds a name and who is closed stays true. The six that are not quiet make
an endpoint, register one, remove one conditionally, empty the registry, close
an endpoint, or stop the hub. Either kind is described by its effect on
`Registry.lookup` and on each `Store.endpoint`.

Key definitions: `Store.Binds`, `Store.Closed`, `Action.Quiet`.
Key theorems: `Store.endpoint_update`, `Action.perform_deliver`,
`Action.Quiet.binds_iff`, `Action.Quiet.shut_eq`, `Action.closed_mono`,
`Action.has_mono`.
-/
import BroadcastChat.Hub.Program
import BroadcastChat.Proofs.Registry

namespace BroadcastChat

namespace Store

instance (store : Store) (id : EndpointId) : Decidable (store.Has id) :=
  inferInstanceAs (Decidable (id.index < store.endpoints.size))

/-- Whether an endpoint holds a name. -/
def Binds (store : Store) (name : Name) (endpoint : EndpointId) : Prop :=
  store.registry.lookup name = some endpoint

/-- Whether an endpoint is closed from either side. -/
def Closed (store : Store) (endpoint : EndpointId) : Prop :=
  (store.endpoint endpoint).isClosed = true

instance (store : Store) (name : Name) (endpoint : EndpointId) :
    Decidable (store.Binds name endpoint) :=
  inferInstanceAs (Decidable (store.registry.lookup name = some endpoint))

instance (store : Store) (endpoint : EndpointId) : Decidable (store.Closed endpoint) :=
  inferInstanceAs (Decidable ((store.endpoint endpoint).isClosed = true))

theorem Binds.unique {store : Store} {name : Name} {e e' : EndpointId} (h : store.Binds name e)
    (h' : store.Binds name e') : e = e' :=
  Option.some.inj (h.symm.trans h')

/-! ### Updating an endpoint -/

theorem has_update {store : Store} {id e : EndpointId} {f : Endpoint → Endpoint} :
    (store.update id f).Has e ↔ store.Has e := by
  simp [Has, update]

theorem endpoint_of_not_has {store : Store} {id : EndpointId} (h : ¬store.Has id) :
    store.endpoint id = .gone := by
  unfold Has at h
  simp [endpoint, h]

theorem has_of_open {store : Store} {e : EndpointId} (h : ¬store.Closed e) : store.Has e := by
  apply Decidable.byContradiction
  intro hh
  rw [Closed, endpoint_of_not_has hh] at h
  exact h rfl

theorem dropped_of_open {store : Store} {e : EndpointId} (h : ¬store.Closed e) :
    (store.endpoint e).dropped = false := by
  simp only [Closed, Endpoint.isClosed, Bool.or_eq_true, not_or, Bool.not_eq_true] at h
  exact h.2

theorem endpoint_update (store : Store) (id e : EndpointId) (f : Endpoint → Endpoint) :
    (store.update id f).endpoint e =
      if e = id ∧ store.Has id then f (store.endpoint e) else store.endpoint e := by
  by_cases he : e = id
  · subst he
    by_cases hh : store.Has e
    · rw [if_pos ⟨rfl, hh⟩, endpoint_update_self f hh]
    · rw [if_neg fun h => hh h.2, endpoint_of_not_has hh, endpoint_of_not_has]
      rwa [has_update]
  · rw [if_neg fun h => he h.1, endpoint_update_of_ne f he]

/-- A field that the change leaves alone is the same at every endpoint. -/
theorem update_congr {α : Type} {store : Store} {id : EndpointId} {f : Endpoint → Endpoint}
    (field : Endpoint → α) (hf : field (f (store.endpoint id)) = field (store.endpoint id))
    (e : EndpointId) : field ((store.update id f).endpoint e) = field (store.endpoint e) := by
  rw [endpoint_update]
  split
  · rename_i h
    rw [h.1, hf]
  · rfl

theorem closed_update {store : Store} {id e : EndpointId} {f : Endpoint → Endpoint}
    (hc : store.Closed e)
    (hf : (store.endpoint id).isClosed = true → (f (store.endpoint id)).isClosed = true) :
    (store.update id f).Closed e := by
  rw [Closed, endpoint_update]
  split
  · rename_i h
    rw [h.1]
    refine hf ?_
    rw [← h.1]
    exact hc
  · exact hc

/-! ### Making an endpoint -/

theorem not_has_newEndpoint (store : Store) (capacity : Nat) :
    ¬store.Has (store.newEndpoint capacity).1 := by
  simp [Has, newEndpoint]

theorem has_newEndpoint {store : Store} {capacity : Nat} {e : EndpointId} :
    (store.newEndpoint capacity).2.Has e ↔ store.Has e ∨ e = (store.newEndpoint capacity).1 := by
  obtain ⟨i⟩ := e
  simp [Has, newEndpoint]
  omega

theorem endpoint_newEndpoint_self (store : Store) (capacity : Nat) :
    (store.newEndpoint capacity).2.endpoint (store.newEndpoint capacity).1 = .new capacity := by
  simp [newEndpoint, endpoint]

theorem endpoint_newEndpoint_of_ne (store : Store) (capacity : Nat) {e : EndpointId}
    (h : e ≠ (store.newEndpoint capacity).1) :
    (store.newEndpoint capacity).2.endpoint e = store.endpoint e := by
  obtain ⟨i⟩ := e
  have hi : i ≠ store.endpoints.size := fun hi => h (by rw [hi]; rfl)
  simp only [newEndpoint, endpoint, Array.getElem?_push, if_neg hi]

end Store

/-! ### Endpoints -/

namespace Endpoint

theorem eq_of_deliver {endpoint after : Endpoint} {delivery : Delivery}
    (h : endpoint.deliver delivery = .ok after) :
    ∃ hle, after =
      { endpoint with unread := endpoint.unread ++ [delivery], unread_le := hle } := by
  unfold deliver at h
  split at h
  · cases h
  · split at h
    · exact ⟨_, (Except.ok.inj h).symm⟩
    · cases h

theorem shut_of_deliver {endpoint after : Endpoint} {delivery : Delivery}
    (h : endpoint.deliver delivery = .ok after) : after.shut = endpoint.shut := by
  obtain ⟨_, rfl⟩ := eq_of_deliver h
  rfl

theorem isClosed_of_deliver {endpoint after : Endpoint} {delivery : Delivery}
    (h : endpoint.deliver delivery = .ok after) : after.isClosed = endpoint.isClosed := by
  obtain ⟨_, rfl⟩ := eq_of_deliver h
  rfl

theorem isClosed_close (endpoint : Endpoint) : endpoint.close.isClosed = true := rfl

theorem isClosed_drop (endpoint : Endpoint) : endpoint.drop.isClosed = true :=
  Bool.or_true _

end Endpoint

namespace Action

variable {time : Timestamp} {store : Store} {action : Action}

/-! ### A delivery -/

theorem perform_deliver_ok {e : EndpointId} {delivery : Delivery} {after : Endpoint}
    (h : (store.endpoint e).deliver delivery = .ok after) :
    (Action.deliver e delivery).perform time store = (.ok (), store.update e fun _ => after) := by
  simp only [perform, h]

theorem perform_deliver_error {e : EndpointId} {delivery : Delivery} {refusal : Refusal}
    (h : (store.endpoint e).deliver delivery = .error refusal) :
    (Action.deliver e delivery).perform time store = (.error refusal, store) := by
  simp only [perform, h]

/-- A delivery changes nothing, or is taken by the endpoint that it is for. -/
theorem perform_deliver (time : Timestamp) (store : Store) (e : EndpointId)
    (delivery : Delivery) :
    ((Action.deliver e delivery).perform time store).2 = store ∨
      ∃ after, (store.endpoint e).deliver delivery = .ok after ∧
        ((Action.deliver e delivery).perform time store).2 = store.update e fun _ => after := by
  cases hd : (store.endpoint e).deliver delivery with
  | ok after => exact .inr ⟨after, rfl, by rw [perform_deliver_ok hd]⟩
  | error refusal => exact .inl (by rw [perform_deliver_error hd])

/-! ### Quiet actions -/

/-- Changes no binding, shuts no endpoint and does not stop the hub. -/
def Quiet : Action → Prop
  | .create _ | .register _ _ | .removeIfCurrent _ _ | .drain | .close _ | .stop => False
  | _ => True

theorem Quiet.registry_eq (h : action.Quiet) :
    (action.perform time store).2.registry = store.registry := by
  cases action with
  | deliver e d =>
    rcases perform_deliver time store e d with hsame | ⟨after, _, htaken⟩
    · rw [hsame]
    · rw [htaken]
      rfl
  | create | register | removeIfCurrent | drain | close | stop => cases h
  | _ => rfl

theorem Quiet.binds_iff (h : action.Quiet) {name : Name} {e : EndpointId} :
    (action.perform time store).2.Binds name e ↔ store.Binds name e := by
  rw [Store.Binds, h.registry_eq]
  rfl

theorem Quiet.has_iff (h : action.Quiet) {e : EndpointId} :
    (action.perform time store).2.Has e ↔ store.Has e := by
  cases action with
  | deliver x d =>
    rcases perform_deliver time store x d with hsame | ⟨after, _, htaken⟩
    · rw [hsame]
    · rw [htaken]
      exact Store.has_update
  | drop | beginWait | endWait => exact Store.has_update
  | create | register | removeIfCurrent | drain | close | stop => cases h
  | _ => rfl

theorem shut_beginWait (endpoint : Endpoint) : endpoint.beginWait.shut = endpoint.shut := by
  unfold Endpoint.beginWait
  split <;> rfl

theorem isClosed_beginWait (endpoint : Endpoint) :
    endpoint.beginWait.isClosed = endpoint.isClosed := by
  unfold Endpoint.beginWait
  split <;> rfl

theorem Quiet.shut_eq (h : action.Quiet) (e : EndpointId) :
    ((action.perform time store).2.endpoint e).shut = (store.endpoint e).shut := by
  cases action with
  | deliver x d =>
    rcases perform_deliver time store x d with hsame | ⟨after, hd, htaken⟩
    · rw [hsame]
    · rw [htaken]
      exact Store.update_congr Endpoint.shut (Endpoint.shut_of_deliver hd) e
  | drop x => exact Store.update_congr Endpoint.shut rfl e
  | beginWait x => exact Store.update_congr Endpoint.shut (shut_beginWait _) e
  | endWait x => exact Store.update_congr Endpoint.shut rfl e
  | create | register | removeIfCurrent | drain | close | stop => cases h
  | _ => rfl

/-! ### All actions -/

theorem has_mono {e : EndpointId} (h : store.Has e) : (action.perform time store).2.Has e := by
  cases action with
  | create c => exact Store.has_newEndpoint.2 (.inl h)
  | deliver x d =>
    rcases perform_deliver time store x d with hsame | ⟨after, _, htaken⟩
    · rw [hsame]
      exact h
    · rw [htaken]
      exact Store.has_update.2 h
  | close | drop | beginWait | endWait => exact Store.has_update.2 h
  | _ => exact h

theorem closed_mono {e : EndpointId} (h : store.Has e) (hc : store.Closed e) :
    (action.perform time store).2.Closed e := by
  cases action with
  | create c =>
    have hne : e ≠ (store.newEndpoint c).1 := fun he => store.not_has_newEndpoint c (he ▸ h)
    exact (congrArg Endpoint.isClosed (Store.endpoint_newEndpoint_of_ne store c hne)).trans hc
  | deliver x d =>
    rcases perform_deliver time store x d with hsame | ⟨after, hd, htaken⟩
    · rw [hsame]
      exact hc
    · rw [htaken]
      exact Store.closed_update hc fun hx => (Endpoint.isClosed_of_deliver hd).trans hx
  | close x => exact Store.closed_update hc fun _ => Endpoint.isClosed_close _
  | drop x => exact Store.closed_update hc fun _ => Endpoint.isClosed_drop _
  | beginWait x => exact Store.closed_update hc fun hx => (isClosed_beginWait _).trans hx
  | endWait x => exact Store.closed_update hc fun hx => hx
  | _ => exact hc

theorem stopped_mono (hs : store.stopped = true) :
    (action.perform time store).2.stopped = true := by
  cases action with
  | deliver x d =>
    rcases perform_deliver time store x d with hsame | ⟨after, _, htaken⟩
    · rw [hsame]
      exact hs
    · rw [htaken]
      exact hs
  | stop => rfl
  | _ => exact hs

/-- Only the stop signal stops the hub. -/
theorem stopped_eq (h : action ≠ .stop) :
    (action.perform time store).2.stopped = store.stopped := by
  cases action with
  | deliver x d =>
    rcases perform_deliver time store x d with hsame | ⟨after, _, htaken⟩
    · rw [hsame]
    · rw [htaken]
      rfl
  | stop => exact absurd rfl h
  | _ => rfl

end Action

end BroadcastChat
