/-
# One broadcast and its recipients

Handing a message out tries the recipients one after the other, and a trial
touches nobody but the one that is tried (`Offered`). So, as long as no
endpoint is listed twice, whether a recipient takes the message is decided by
its own queue as it was before the broadcast (`Endpoint.refusal?`), and the
whole is described recipient by recipient: who accepts it, who is refused, who
keeps its binding.

Key definitions: `Endpoint.refusal?`, `Offered`, `Store.Distinct`.
Key theorems: `Program.offered_handOut`, `Program.accepted_handOut`,
`Program.refusals_handOut`, `Program.binds_handOut`,
`Program.accepted_broadcast`, `Program.mem_refusals_broadcast`,
`Program.binds_broadcast`.
-/
import Mathlib.Data.List.Nodup
import BroadcastChat.Proofs.Trace
import BroadcastChat.Hub.Broadcast

namespace BroadcastChat

/-! ### Who takes a delivery -/

namespace Endpoint

/-- Why the endpoint would not take a delivery now, if it would not. -/
def refusal? (endpoint : Endpoint) : Option Refusal :=
  if endpoint.isClosed then some .closed
  else if endpoint.unread.length < endpoint.bound then none
  else some .full

theorem refusal?_of_ok {endpoint after : Endpoint} {delivery : Delivery}
    (h : endpoint.deliver delivery = .ok after) : endpoint.refusal? = none := by
  unfold deliver at h
  unfold refusal?
  split at h
  · cases h
  · rename_i hc
    split at h
    · rename_i hlt
      rw [if_neg hc, if_pos hlt]
    · cases h

theorem refusal?_of_error {endpoint : Endpoint} {delivery : Delivery} {refusal : Refusal}
    (h : endpoint.deliver delivery = .error refusal) : endpoint.refusal? = some refusal := by
  unfold deliver at h
  unfold refusal?
  split at h
  · rename_i hc
    cases h
    rw [if_pos hc]
  · rename_i hc
    split at h
    · cases h
    · rename_i hlt
      cases h
      rw [if_neg hc, if_neg hlt]

theorem eq_full_of_refusal? {endpoint : Endpoint} {refusal : Refusal}
    (hc : endpoint.isClosed = false) (h : endpoint.refusal? = some refusal) :
    refusal = .full := by
  unfold refusal? at h
  rw [if_neg (by simp [hc])] at h
  split at h
  · cases h
  · cases h
    rfl

end Endpoint

/-- Why an endpoint of the store would not take a delivery now. -/
def Store.refusal? (store : Store) (endpoint : EndpointId) : Option Refusal :=
  (store.endpoint endpoint).refusal?

/-! ### One recipient -/

/-- What trying one recipient does and leaves in the trace. -/
structure Offered (delivery : Delivery) (recipient : Binding) (store : Store)
    (events : List Event) (after : Store) : Prop where
  endpoint_of_ne : ∀ e, e ≠ recipient.2 → after.endpoint e = store.endpoint e
  binds_iff : ∀ n e, after.Binds n e ↔
    store.Binds n e ∧ ((n, e) = recipient → store.refusal? recipient.2 = none)
  accepted_eq : ∀ e, accepted events e =
    if e = recipient.2 ∧ store.refusal? recipient.2 = none then [delivery] else []
  refusals_eq : refusals events = (store.refusal? recipient.2).toList.map (recipient.2, ·)

namespace Program

variable {time : Timestamp}

/-- The first recipient is tried, and then the others. -/
theorem offered_handOut (delivery : Delivery) (report : Report) (recipient : Binding)
    (rest : List Binding) (store : Store) :
    ∃ events after, Offered delivery recipient store events after ∧
      (handOut delivery report (recipient :: rest)).trace time store =
        events ++ (handOut delivery (if store.refusal? recipient.2 = none
          then report.took recipient.1 else report.lost recipient.1) rest).trace time after ∧
      (handOut delivery report (recipient :: rest)).run time store =
        (handOut delivery (if store.refusal? recipient.2 = none
          then report.took recipient.1 else report.lost recipient.1) rest).run time after := by
  obtain ⟨name, endpoint⟩ := recipient
  cases hd : (store.endpoint endpoint).deliver delivery with
  | ok taken =>
    have hr : store.refusal? endpoint = none := Endpoint.refusal?_of_ok hd
    refine ⟨[⟨.deliver endpoint delivery, .ok ()⟩], store.update endpoint fun _ => taken,
      ⟨?_, ?_, ?_, ?_⟩, ?_, ?_⟩
    · exact fun e hne => Store.endpoint_update_of_ne _ hne
    · exact fun n e => ⟨fun hb => ⟨hb, fun _ => hr⟩, And.left⟩
    · intro e
      by_cases he : e = endpoint
      · rw [if_pos ⟨he, hr⟩, he]
        exact accepted_singleton_ok endpoint delivery
      · rw [if_neg fun h => he h.1]
        exact accepted_singleton_of_ne _ he
    · rw [hr]
      rfl
    · rw [if_pos hr, handOut, deliver, trace_act_bind, Action.perform_deliver_ok hd]
      rfl
    · rw [if_pos hr, handOut, deliver, run_act_bind, Action.perform_deliver_ok hd]
  | error refusal =>
    have hr : store.refusal? endpoint = some refusal := Endpoint.refusal?_of_error hd
    have hne : store.refusal? endpoint ≠ none := by simp [hr]
    let removed := (Action.removeIfCurrent name endpoint).perform time store
    let closed := (Action.close endpoint).perform time removed.2
    refine ⟨[⟨.deliver endpoint delivery, .error refusal⟩,
        ⟨.removeIfCurrent name endpoint, removed.1⟩, ⟨.close endpoint, closed.1⟩], closed.2,
      ⟨?_, ?_, ?_, ?_⟩, ?_, ?_⟩
    · exact fun e hne => Store.endpoint_update_of_ne _ hne
    · intro n e
      rw [hr]
      have hbinds : closed.2.Binds n e ↔ store.Binds n e ∧ (n, e) ≠ (name, endpoint) :=
        Registry.lookup_removeIfCurrent_eq_some
      simpa using hbinds
    · intro e
      rw [if_neg fun h => hne h.2]
      rfl
    · rw [hr]
      rfl
    · rw [if_neg hne, handOut, deliver, trace_act_bind, Action.perform_deliver_error hd]
      rfl
    · rw [if_neg hne, handOut, deliver, run_act_bind, Action.perform_deliver_error hd]
      rfl

/-! ### All recipients -/

section

variable {recipients : List Binding} {store : Store}

theorem Offered.refusal?_eq {delivery : Delivery} {recipient : Binding} {events : List Event}
    {after : Store} (h : Offered delivery recipient store events after)
    (hrest : recipient.2 ∉ recipients.map Prod.snd) {b : Binding} (hb : b ∈ recipients) :
    after.refusal? b.2 = store.refusal? b.2 := by
  have hne : b.2 ≠ recipient.2 := fun heq => hrest (heq ▸ List.mem_map_of_mem hb)
  rw [Store.refusal?, h.endpoint_of_ne _ hne, Store.refusal?]

/-- A recipient whose queue takes the message accepts it once; nobody else accepts anything. -/
theorem accepted_handOut (delivery : Delivery) (report : Report)
    (hn : (recipients.map Prod.snd).Nodup) (e : EndpointId) :
    accepted ((handOut delivery report recipients).trace time store) e =
      if e ∈ recipients.map Prod.snd ∧ store.refusal? e = none then [delivery] else [] := by
  induction recipients generalizing store report with
  | nil => simp [handOut, accepted]
  | cons b rest ih =>
    obtain ⟨hb, hrest⟩ := List.nodup_cons.1 hn
    obtain ⟨events, after, ho, htrace, _⟩ := offered_handOut delivery report b rest store
    rw [htrace, accepted_append, ho.accepted_eq, ih _ hrest]
    by_cases he : e = b.2
    · -- it is tried now and not again
      subst he
      simp [hb]
    · rw [if_neg fun h => he h.1, List.nil_append, Store.refusal?, ho.endpoint_of_ne _ he]
      simp only [List.map_cons, List.mem_cons, he, false_or, Store.refusal?]

theorem refusals_handOut (delivery : Delivery) (report : Report)
    (hn : (recipients.map Prod.snd).Nodup) :
    refusals ((handOut delivery report recipients).trace time store) =
      recipients.filterMap fun b => (store.refusal? b.2).map (b.2, ·) := by
  induction recipients generalizing store report with
  | nil => rfl
  | cons b rest ih =>
    obtain ⟨hb, hrest⟩ := List.nodup_cons.1 hn
    obtain ⟨events, after, ho, htrace, _⟩ := offered_handOut delivery report b rest store
    rw [htrace, refusals_append, ho.refusals_eq, ih _ hrest, List.filterMap_cons]
    have hsame : (rest.filterMap fun b => (after.refusal? b.2).map (b.2, ·)) =
        rest.filterMap fun b => (store.refusal? b.2).map (b.2, ·) :=
      List.filterMap_congr fun c hc => by rw [Offered.refusal?_eq ho hb hc]
    rw [hsame]
    cases store.refusal? b.2 <;> rfl

/-- A recipient that is refused loses its binding; nobody else's changes. -/
theorem binds_handOut (delivery : Delivery) (report : Report)
    (hn : (recipients.map Prod.snd).Nodup) (n : Name) (e : EndpointId) :
    ((handOut delivery report recipients).run time store).2.Binds n e ↔
      store.Binds n e ∧ ((n, e) ∈ recipients → store.refusal? e = none) := by
  induction recipients generalizing store report with
  | nil => simp [handOut]
  | cons b rest ih =>
    obtain ⟨hb, hrest⟩ := List.nodup_cons.1 hn
    obtain ⟨events, after, ho, _, hrun⟩ := offered_handOut delivery report b rest store
    rw [hrun, ih _ hrest, ho.binds_iff, and_assoc]
    refine and_congr_right fun _ => ?_
    rw [List.mem_cons, or_imp]
    refine and_congr ⟨?_, ?_⟩ (forall_congr' fun hmem => ?_)
    · rintro h rfl
      exact h rfl
    · rintro h rfl
      exact h rfl
    · rw [Offered.refusal?_eq ho hb hmem]

end

end Program

/-! ### Broadcasts -/

/-- No endpoint holds two names. -/
def Store.Distinct (store : Store) : Prop := (store.registry.bindings.map Prod.snd).Nodup

namespace Store

variable {store : Store}

theorem Distinct.nodup_snapshotExcept (h : store.Distinct) (sender : Name) :
    ((store.registry.snapshotExcept sender).map Prod.snd).Nodup :=
  h.sublist (List.filter_sublist.map Prod.snd)

theorem Distinct.eq_of_binds (h : store.Distinct) {n n' : Name} {e : EndpointId}
    (hb : store.Binds n e) (hb' : store.Binds n' e) : n = n' :=
  congrArg Prod.fst (List.inj_on_of_nodup_map h (Registry.mem_bindings_iff.2 hb)
    (Registry.mem_bindings_iff.2 hb') rfl)

theorem mem_recipients {sender : Name} {e : EndpointId} :
    e ∈ (store.registry.snapshotExcept sender).map Prod.snd ↔
      ∃ n, store.Binds n e ∧ n ≠ sender := by
  rw [List.mem_map]
  constructor
  · rintro ⟨⟨n, e⟩, hmem, rfl⟩
    exact ⟨n, Registry.mem_snapshotExcept.1 hmem⟩
  · rintro ⟨n, hb, hne⟩
    exact ⟨(n, e), Registry.mem_snapshotExcept.2 ⟨hb, hne⟩, rfl⟩

end Store

namespace Program

variable {time : Timestamp} {store : Store}

theorem trace_broadcast (message : Message) :
    (broadcast message).trace time store = [⟨.now, time⟩,
      ⟨.snapshotExcept message.sender, store.registry.snapshotExcept message.sender⟩] ++
      (handOut ⟨message, time⟩ .empty (store.registry.snapshotExcept message.sender)).trace
        time store := rfl

/-- Whoever holds a name accepts what others broadcast if its queue takes it. -/
theorem accepted_broadcast (h : store.Distinct) {n : Name} {e : EndpointId}
    (hb : store.Binds n e) (message : Message) :
    accepted ((broadcast message).trace time store) e =
      if message.sender ≠ n ∧ store.refusal? e = none then [⟨message, time⟩] else [] := by
  have hmem : e ∈ (store.registry.snapshotExcept message.sender).map Prod.snd ↔
      message.sender ≠ n := by
    rw [Store.mem_recipients]
    constructor
    · rintro ⟨n', hb', hne⟩
      rw [h.eq_of_binds hb hb']
      exact hne.symm
    · exact fun hne => ⟨n, hb, hne.symm⟩
  rw [trace_broadcast, accepted_append, accepted_handOut _ _ (h.nodup_snapshotExcept _)]
  simp only [hmem]
  rfl

theorem accepted_broadcast_of_not_binds (h : store.Distinct) {e : EndpointId}
    (hb : ∀ n, ¬store.Binds n e) (message : Message) :
    accepted ((broadcast message).trace time store) e = [] := by
  rw [trace_broadcast, accepted_append, accepted_handOut _ _ (h.nodup_snapshotExcept _), if_neg]
  · rfl
  · rintro ⟨hmem, _⟩
    obtain ⟨n, hbn, _⟩ := Store.mem_recipients.1 hmem
    exact hb n hbn

theorem mem_refusals_broadcast (h : store.Distinct) {message : Message} {e : EndpointId}
    {refusal : Refusal} :
    (e, refusal) ∈ refusals ((broadcast message).trace time store) ↔
      ∃ n, store.Binds n e ∧ n ≠ message.sender ∧ store.refusal? e = some refusal := by
  rw [trace_broadcast, refusals_append, refusals_handOut _ _ (h.nodup_snapshotExcept _)]
  have hnone : refusals [⟨.now, time⟩, ⟨.snapshotExcept message.sender,
    store.registry.snapshotExcept message.sender⟩] = [] := rfl
  rw [hnone, List.nil_append, List.mem_filterMap]
  constructor
  · rintro ⟨⟨n, x⟩, hmem, hr⟩
    obtain ⟨r, hr, heq⟩ := Option.map_eq_some_iff.1 hr
    cases heq
    obtain ⟨hb, hne⟩ := Registry.mem_snapshotExcept.1 hmem
    exact ⟨n, hb, hne, hr⟩
  · rintro ⟨n, hb, hne, hr⟩
    refine ⟨(n, e), Registry.mem_snapshotExcept.2 ⟨hb, hne⟩, ?_⟩
    rw [hr]
    rfl

theorem binds_broadcast (h : store.Distinct) (message : Message) (n : Name) (e : EndpointId) :
    ((broadcast message).run time store).2.Binds n e ↔
      store.Binds n e ∧ (n ≠ message.sender → store.refusal? e = none) := by
  have hrun : ((broadcast message).run time store).2 = ((handOut ⟨message, time⟩ .empty
      (store.registry.snapshotExcept message.sender)).run time store).2 := rfl
  rw [hrun, binds_handOut _ _ (h.nodup_snapshotExcept _)]
  refine and_congr_right fun hb => ?_
  rw [Registry.mem_snapshotExcept, and_imp]
  exact ⟨fun hr hne => hr hb hne, fun hr _ hne => hr hne⟩

end Program

end BroadcastChat
