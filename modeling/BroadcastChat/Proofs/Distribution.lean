/-
# A broadcast in any order

A registry lists its entries in whatever order it likes, and a broadcast goes
through them in that order. What the broadcast makes of the store is the same
in every order: each recipient is tried once, a trial touches nobody else's
queue, and a name is freed by nobody but its own holder. So a broadcast is
described recipient by recipient (`FansOut`), and two stores that agree
recipient by recipient are equal (`Store.ext_binds`).

What a program may do, if nothing else happens meanwhile, is a relation
(`Program.MayRun`): the clock may say anything, and a listing gives the
entries in any order. Where a program does neither there is only one way to go.

Key definitions: `Program.MayRun`, `Endpoint.offer`, `FansOut`.
Key theorems: `Program.mayRun_run`, `Program.mayRun_handOut`,
`Program.mayRun_broadcast`, `Program.endpoint_handOut`,
`Program.report_handOut`, `Store.ext_binds`, `fan_out`.
-/
import BroadcastChat.Proofs.Watch

namespace BroadcastChat

/-! ### What a program may do -/

/-- What a program may do to a store and end with, as long as nothing else happens: the clock may
say anything, and a listing may give the entries in any order. -/
inductive Program.MayRun {α : Type} : Program α → Store → List Event → α → Store → Prop where
  | done (value : α) (store : Store) : MayRun (.done value) store [] value store
  | step {action : Action} {next : action.Answer → Program α} {store mid after : Store}
      {answer : action.Answer} {events : List Event} {value : α}
      (answers : Answers store [store.registry] action answer mid)
      (rest : MayRun (next answer) mid events value after) :
      MayRun (.step action next) store (⟨action, answer⟩ :: events) value after

theorem Answers.eq_perform {store after : Store} {seen : List Registry} {action : Action}
    {answer : action.Answer} (h : Answers store seen action answer after)
    (hnow : action ≠ .now) (hlist : ∀ n, action ≠ .snapshotExcept n) (time : Timestamp) :
    action.perform time store = (answer, after) := by
  cases h with
  | perform stamp action =>
    cases action with
    | now => exact absurd rfl hnow
    | _ => rfl
  | list h => exact absurd rfl (hlist _)

theorem Answers.clock {store after : Store} {seen : List Registry} {stamp : Timestamp}
    (h : Answers store seen .now stamp after) : after = store := by
  cases h
  rfl

/-- As long as nobody changes the registry, a listing gives its entries in some order. -/
theorem listing_iff_perm {name : Name} {registry : Registry} {bindings : List Binding} :
    Listing name [registry] bindings ↔ bindings.Perm (registry.snapshotExcept name) := by
  have hmem : ∀ b, b ∈ registry.snapshotExcept name ↔ b ∈ registry.bindings ∧ b.1 ≠ name := by
    intro b
    simp [Registry.snapshotExcept]
  have hself := Listing.snapshotExcept (List.mem_singleton.2 (rfl : registry = registry)) name
  constructor
  · intro h
    refine (List.perm_ext_iff_of_nodup h.once.of_map hself.once.of_map).2 fun b => ?_
    rw [hmem]
    constructor
    · intro hb
      obtain ⟨seen, hseen, hbound⟩ := h.met b hb
      rw [List.mem_singleton.1 hseen] at hbound
      exact ⟨hbound, h.other b hb⟩
    · rintro ⟨hb, hne⟩
      refine h.stayed registry List.mem_cons_self b hb hne fun later hlater => ?_
      rwa [List.mem_singleton.1 hlater]
  · intro hperm
    refine ⟨fun b hb => ((hmem b).1 (hperm.mem_iff.1 hb)).2,
      fun b hb => ⟨registry, List.mem_cons_self, ((hmem b).1 (hperm.mem_iff.1 hb)).1⟩, ?_, ?_⟩
    · intro seen hseen b hb hne _
      rw [List.mem_singleton.1 hseen] at hb
      exact hperm.mem_iff.2 ((hmem b).2 ⟨hb, hne⟩)
    · exact (hperm.map Prod.fst).nodup_iff.2 hself.once

namespace Program

variable {α β : Type} {p : Program α} {store after : Store} {events : List Event}

/-- The run at a given time, with the registry's own order, is one of the ways to go. -/
theorem mayRun_run (time : Timestamp) (p : Program α) (store : Store) :
    p.MayRun store (p.trace time store) (p.run time store).1 (p.run time store).2 := by
  induction p generalizing store with
  | done value => exact .done value store
  | step action next ih => exact .step (.perform time action) (ih _ _)

theorem mayRun_pure {value result : α} :
    (pure value : Program α).MayRun store events result after ↔
      events = [] ∧ result = value ∧ after = store := by
  constructor
  · intro h
    cases h
    exact ⟨rfl, rfl, rfl⟩
  · rintro ⟨rfl, rfl, rfl⟩
    exact .done _ _

theorem mayRun_act_bind {action : Action} {next : action.Answer → Program α} {value : α} :
    (act action >>= next).MayRun store events value after ↔
      ∃ answer mid rest, Answers store [store.registry] action answer mid ∧
        events = ⟨action, answer⟩ :: rest ∧ (next answer).MayRun mid rest value after := by
  constructor
  · rintro (_ | ⟨hanswers, hrest⟩)
    exact ⟨_, _, _, hanswers, rfl, hrest⟩
  · rintro ⟨answer, mid, rest, hanswers, rfl, hrest⟩
    exact .step hanswers hrest

theorem mayRun_map {f : α → β} {result : β} :
    (p >>= fun value => pure (f value)).MayRun store events result after ↔
      ∃ value, p.MayRun store events value after ∧ result = f value := by
  induction p generalizing store events with
  | done value =>
    refine mayRun_pure.trans ⟨?_, ?_⟩
    · rintro ⟨rfl, rfl, rfl⟩
      exact ⟨value, .done _ _, rfl⟩
    · rintro ⟨_, h, rfl⟩
      cases h
      exact ⟨rfl, rfl, rfl⟩
  | step action next ih =>
    constructor
    · rintro (_ | ⟨hanswers, hrest⟩)
      obtain ⟨value, hvalue, rfl⟩ := (ih _).1 hrest
      exact ⟨value, .step hanswers hvalue, rfl⟩
    · rintro ⟨value, _ | ⟨hanswers, hrest⟩, rfl⟩
      exact .step hanswers ((ih _).2 ⟨value, hrest, rfl⟩)

/-- A program that neither lists the registry nor reads the clock can only go one way. -/
theorem Within.eq_run_of_mayRun {kinds : List Action.Kind} {value : α} (h : p.Within kinds)
    (hnow : .now ∉ kinds) (hother : .other ∉ kinds)
    (hrun : p.MayRun store events value after) (time : Timestamp) :
    p.run time store = (value, after) ∧ p.trace time store = events := by
  induction hrun with
  | done value store => exact ⟨rfl, rfl⟩
  | @step action next store mid after answer events value hanswers _ ih =>
    have hperform : action.perform time store = (answer, mid) := by
      refine hanswers.eq_perform ?_ (fun n => ?_) time
      · rintro rfl
        exact hnow h.1
      · rintro rfl
        exact hother h.1
    obtain ⟨hlater, htrace⟩ := ih (h.2 answer)
    refine ⟨?_, ?_⟩
    · rw [run_step, hperform, hlater]
    · rw [trace, hperform, htrace]

theorem mayRun_handOut {delivery : Delivery} {report result : Report} {recipients : List Binding}
    (time : Timestamp) :
    (handOut delivery report recipients).MayRun store events result after ↔
      (handOut delivery report recipients).run time store = (result, after) ∧
        (handOut delivery report recipients).trace time store = events := by
  constructor
  · intro h
    exact (within_handOut delivery report recipients).eq_run_of_mayRun (by simp) (by simp) h time
  · rintro ⟨hrun, rfl⟩
    have h := mayRun_run time (handOut delivery report recipients) store
    rwa [hrun] at h

/-- **A broadcast reads the clock once, lists the recipients in some order, and hands the message
out in that order.** -/
theorem mayRun_broadcast {message : Message} {report : Report} :
    (broadcast message).MayRun store events report after ↔
      ∃ stamp recipients, recipients.Perm (store.registry.snapshotExcept message.sender) ∧
        (handOut ⟨message, stamp⟩ .empty recipients).run stamp store = (report, after) ∧
        events = [⟨.now, stamp⟩, ⟨.snapshotExcept message.sender, recipients⟩] ++
          (handOut ⟨message, stamp⟩ .empty recipients).trace stamp store := by
  constructor
  · intro h
    obtain ⟨stamp, mid, rest, hnow, rfl, hlater⟩ := mayRun_act_bind.1 h
    obtain ⟨recipients, mid', rest', hlist, rfl, hout⟩ := mayRun_act_bind.1 hlater
    obtain rfl := hnow.clock
    obtain ⟨hlisting, rfl⟩ := hlist.listing List.mem_cons_self
    obtain ⟨hrun, rfl⟩ := (mayRun_handOut stamp).1 hout
    exact ⟨stamp, recipients, listing_iff_perm.1 hlisting, hrun, rfl⟩
  · rintro ⟨stamp, recipients, hperm, hrun, rfl⟩
    refine mayRun_act_bind.2 ⟨stamp, store, _, .perform stamp .now, rfl, ?_⟩
    refine mayRun_act_bind.2 ⟨recipients, store, _, .list (listing_iff_perm.2 hperm), rfl, ?_⟩
    exact (mayRun_handOut stamp).2 ⟨hrun, rfl⟩

end Program

/-! ### What handing out does to each recipient -/

/-- What becomes of an endpoint that is offered a delivery: it takes it, or it is closed. -/
def Endpoint.offer (endpoint : Endpoint) (delivery : Delivery) : Endpoint :=
  match endpoint.deliver delivery with
  | .ok after => after
  | .error _ => endpoint.close

theorem Endpoint.offer_of_refused {endpoint : Endpoint} {refusal : Refusal} (delivery : Delivery)
    (h : endpoint.refusal? = some refusal) : endpoint.offer delivery = endpoint.close := by
  unfold offer
  split
  · rename_i after hd
    rw [Endpoint.refusal?_of_ok hd] at h
    cases h
  · rfl

theorem Endpoint.offer_of_taken {endpoint : Endpoint} (delivery : Delivery)
    (h : endpoint.refusal? = none) :
    ∃ room, endpoint.offer delivery =
      { endpoint with unread := endpoint.unread ++ [delivery], unread_le := room } := by
  unfold offer
  split
  · rename_i after hd
    exact Endpoint.eq_of_deliver hd
  · rename_i refusal hd
    rw [Endpoint.refusal?_of_error hd] at h
    cases h

theorem Endpoint.refusal?_eq_none {endpoint : Endpoint} :
    endpoint.refusal? = none ↔
      endpoint.isClosed = false ∧ endpoint.unread.length < endpoint.bound := by
  unfold refusal?
  split
  · rename_i hc
    simp [hc]
  · rename_i hc
    split
    · rename_i hlt
      simp [hc, hlt]
    · rename_i hlt
      simp [hlt]

/-- Nobody has ever sent to an endpoint that was never made; it is closed anyway. -/
theorem Endpoint.offer_gone (delivery : Delivery) : Endpoint.gone.offer delivery = .gone := rfl

namespace Program

variable {time : Timestamp} {store : Store} {recipients : List Binding}

/-- Trying a recipient makes of its endpoint what an offer makes of it. -/
theorem endpoint_offered (delivery : Delivery) (report : Report) (recipient : Binding)
    (rest : List Binding) (store : Store) :
    ∃ after, (handOut delivery report (recipient :: rest)).run time store =
        (handOut delivery (if store.refusal? recipient.2 = none
          then report.took recipient.1 else report.lost recipient.1) rest).run time after ∧
      ∀ e, after.endpoint e =
        if e = recipient.2 then (store.endpoint e).offer delivery else store.endpoint e := by
  obtain ⟨name, endpoint⟩ := recipient
  have hoffer : ∀ (after : Store) (f : Endpoint → Endpoint), after.endpoints = store.endpoints →
      f (store.endpoint endpoint) = (store.endpoint endpoint).offer delivery →
      ∀ e, (after.update endpoint f).endpoint e =
        if e = endpoint then (store.endpoint e).offer delivery else store.endpoint e := by
    intro after f hsame hf e
    have hendpoint : ∀ x, after.endpoint x = store.endpoint x := fun x => by
      rw [Store.endpoint, hsame, Store.endpoint]
    rw [Store.endpoint_update, hendpoint]
    by_cases he : e = endpoint
    · subst he
      by_cases hh : after.Has e
      · rw [if_pos ⟨rfl, hh⟩, if_pos rfl, hf]
      · rw [if_neg fun h => hh h.2, if_pos rfl, ← hendpoint, Store.endpoint_of_not_has hh,
          Endpoint.offer_gone]
    · rw [if_neg fun h => he h.1, if_neg he]
  cases hd : (store.endpoint endpoint).deliver delivery with
  | ok taken =>
    have hr : store.refusal? endpoint = none := Endpoint.refusal?_of_ok hd
    refine ⟨store.update endpoint fun _ => taken, ?_, hoffer store _ rfl ?_⟩
    · rw [if_pos hr, handOut, deliver, run_act_bind, Action.perform_deliver_ok hd]
    · rw [Endpoint.offer, hd]
  | error refusal =>
    have hr : store.refusal? endpoint = some refusal := Endpoint.refusal?_of_error hd
    refine ⟨_, ?_, hoffer ((Action.removeIfCurrent name endpoint).perform time store).2
      Endpoint.close rfl ?_⟩
    · rw [if_neg (by simp [hr]), handOut, deliver, run_act_bind, Action.perform_deliver_error hd]
      rfl
    · rw [Endpoint.offer, hd]

/-- Each recipient's endpoint becomes what an offer makes of it; nobody else's changes. -/
theorem endpoint_handOut (delivery : Delivery) (report : Report)
    (hn : (recipients.map Prod.snd).Nodup) (e : EndpointId) :
    ((handOut delivery report recipients).run time store).2.endpoint e =
      if e ∈ recipients.map Prod.snd then (store.endpoint e).offer delivery
      else store.endpoint e := by
  induction recipients generalizing store report with
  | nil => rfl
  | cons b rest ih =>
    obtain ⟨hb, hrest⟩ := List.nodup_cons.1 hn
    obtain ⟨after, hrun, hafter⟩ := @endpoint_offered time delivery report b rest store
    rw [hrun, ih _ hrest, hafter]
    by_cases he : e = b.2
    · -- it is tried now and not again
      rw [if_neg (he ▸ hb), if_pos he, List.map_cons, if_pos (he ▸ List.mem_cons_self)]
    · simp only [List.map_cons, List.mem_cons, he, false_or, if_false]

theorem report_handOut (delivery : Delivery) (report : Report)
    (hn : (recipients.map Prod.snd).Nodup) :
    ((handOut delivery report recipients).run time store).1 =
      ⟨report.delivered ++
          (recipients.filter fun b => store.refusal? b.2 = none).map Prod.fst,
        report.pruned ++
          (recipients.filter fun b => store.refusal? b.2 ≠ none).map Prod.fst⟩ := by
  induction recipients generalizing store report with
  | nil => simp [handOut]
  | cons b rest ih =>
    obtain ⟨hb, hrest⟩ := List.nodup_cons.1 hn
    obtain ⟨after, hrun, hafter⟩ := @endpoint_offered time delivery report b rest store
    have hsame : ∀ c ∈ rest, after.refusal? c.2 = store.refusal? c.2 := by
      intro c hc
      have hne : c.2 ≠ b.2 := fun heq => hb (heq ▸ List.mem_map_of_mem hc)
      rw [Store.refusal?, hafter, if_neg hne, Store.refusal?]
    have htook : (rest.filter fun c => after.refusal? c.2 = none) =
        rest.filter fun c => store.refusal? c.2 = none :=
      List.filter_congr fun c hc => by rw [hsame c hc]
    have hlost : (rest.filter fun c => after.refusal? c.2 ≠ none) =
        rest.filter fun c => store.refusal? c.2 ≠ none :=
      List.filter_congr fun c hc => by rw [hsame c hc]
    rw [hrun, ih _ hrest, htook, hlost]
    by_cases hr : store.refusal? b.2 = none
    · simp [hr, Report.took]
    · simp [hr, Report.lost]

theorem inbounds_handOut (delivery : Delivery) (report : Report) :
    ((handOut delivery report recipients).run time store).2.inbounds = store.inbounds ∧
      ((handOut delivery report recipients).run time store).2.endpoints.size =
        store.endpoints.size := by
  induction recipients generalizing store report with
  | nil => exact ⟨rfl, rfl⟩
  | cons b rest ih =>
    obtain ⟨name, endpoint⟩ := b
    rw [handOut, deliver, run_act_bind]
    cases hd : (store.endpoint endpoint).deliver delivery with
    | ok taken =>
      rw [Action.perform_deliver_ok hd]
      obtain ⟨hinbounds, hsize⟩ := @ih (store.update endpoint fun _ => taken) (report.took name)
      exact ⟨hinbounds, hsize.trans (by simp [Store.update])⟩
    | error refusal =>
      rw [Action.perform_deliver_error hd]
      let removed := ((Action.removeIfCurrent name endpoint).perform time store).2
      obtain ⟨hinbounds, hsize⟩ := @ih (removed.update endpoint Endpoint.close) (report.lost name)
      exact ⟨hinbounds, hsize.trans (by simp [Store.update, removed, Action.perform])⟩

end Program

/-! ### Stores that agree recipient by recipient -/

/-- A store is its endpoints and bindings, its inbound streams and its stop signal. -/
theorem Store.ext_binds {store other : Store}
    (hsize : store.endpoints.size = other.endpoints.size)
    (hendpoint : ∀ e, store.endpoint e = other.endpoint e)
    (hbinds : ∀ n e, store.Binds n e ↔ other.Binds n e)
    (hinbounds : store.inbounds = other.inbounds) (hstopped : store.stopped = other.stopped) :
    store = other := by
  have hendpoints : store.endpoints = other.endpoints := by
    refine Array.ext hsize fun i hi hi' => ?_
    have h := hendpoint ⟨i⟩
    rwa [endpoint, endpoint, Array.getElem?_eq_getElem hi, Array.getElem?_eq_getElem hi'] at h
  have hregistry : store.registry = other.registry := Registry.ext_lookup hbinds
  cases store
  cases other
  cases hendpoints
  cases hregistry
  cases hinbounds
  cases hstopped
  rfl

/-! ### The whole broadcast -/

/-- What a broadcast of a message with this time stamp reports, and what it makes of a store. -/
structure FansOut (message : Message) (stamp : Timestamp) (store : Store) (report : Report)
    (after : Store) : Prop where
  /-- Nobody is reported twice. -/
  nodup : (report.delivered ++ report.pruned).Nodup
  /-- Everybody but the sender is reported. -/
  mem_iff : ∀ n, n ∈ report.delivered ++ report.pruned ↔
    n ∈ store.registry.names ∧ n ≠ message.sender
  delivered_iff : ∀ n, n ∈ report.delivered ↔ ∃ e, store.Binds n e ∧ n ≠ message.sender ∧
    (store.endpoint e).isClosed = false ∧
    (store.endpoint e).unread.length < (store.endpoint e).bound
  /-- Whoever took the message has it at the end of the queue and is otherwise as before. -/
  queued : ∀ n ∈ report.delivered, ∀ e, store.Binds n e → after.Binds n e ∧
    ∃ room, after.endpoint e = { store.endpoint e with
      unread := (store.endpoint e).unread ++ [⟨message, stamp⟩], unread_le := room }
  /-- Whoever was dropped is closed, but keeps what was queued. -/
  dropped : ∀ n ∈ report.pruned, ∀ e, store.Binds n e → (∀ m, ¬after.Binds m e) ∧
    after.Closed e ∧ after.endpoint e = (store.endpoint e).close
  /-- The sender and whoever holds no name are not touched. -/
  bystander : ∀ e, (∀ n, store.Binds n e → n = message.sender) →
    after.endpoint e = store.endpoint e
  binds_iff : ∀ n e, after.Binds n e ↔ store.Binds n e ∧ n ∉ report.pruned
  size_eq : after.endpoints.size = store.endpoints.size
  inbounds_eq : after.inbounds = store.inbounds
  stopped_eq : after.stopped = store.stopped

namespace FansOut

variable {message : Message} {stamp : Timestamp} {store after : Store} {report : Report}

theorem pruned_iff (h : FansOut message stamp store report after) (n : Name) :
    n ∈ report.pruned ↔
      (n ∈ store.registry.names ∧ n ≠ message.sender) ∧ n ∉ report.delivered := by
  rw [← h.mem_iff, List.mem_append]
  have hdisjoint := List.disjoint_of_nodup_append h.nodup
  constructor
  · exact fun hn => ⟨.inr hn, fun hd => hdisjoint hd hn⟩
  · rintro ⟨hd | hp, hnot⟩
    · exact absurd hd hnot
    · exact hp

/-- **Nothing depends on the order**: what is said about a broadcast determines the store after it
and, but for the order, the report. -/
theorem unique {report' : Report} {after' : Store}
    (h : FansOut message stamp store report after)
    (h' : FansOut message stamp store report' after') :
    report'.delivered.Perm report.delivered ∧ report'.pruned.Perm report.pruned ∧
      after' = after := by
  have hdelivered : ∀ n, n ∈ report'.delivered ↔ n ∈ report.delivered := fun n => by
    rw [h'.delivered_iff, h.delivered_iff]
  have hpruned : ∀ n, n ∈ report'.pruned ↔ n ∈ report.pruned := fun n => by
    rw [h'.pruned_iff, h.pruned_iff, hdelivered]
  refine ⟨?_, ?_, Store.ext_binds (h'.size_eq.trans h.size_eq.symm) (fun e => ?_) (fun n e => ?_)
    (h'.inbounds_eq.trans h.inbounds_eq.symm) (h'.stopped_eq.trans h.stopped_eq.symm)⟩
  · exact (List.perm_ext_iff_of_nodup h'.nodup.of_append_left h.nodup.of_append_left).2 hdelivered
  · exact (List.perm_ext_iff_of_nodup h'.nodup.of_append_right h.nodup.of_append_right).2 hpruned
  · by_cases hbystander : ∀ n, store.Binds n e → n = message.sender
    · rw [h'.bystander e hbystander, h.bystander e hbystander]
    · -- somebody else holds it, and took the message or was dropped
      simp only [not_forall] at hbystander
      obtain ⟨n, hb, hne⟩ := hbystander
      have hmem := (h.mem_iff n).2 ⟨Registry.mem_names.2 ⟨e, hb⟩, hne⟩
      rcases List.mem_append.1 hmem with hd | hp
      · obtain ⟨_, room, heq⟩ := h.queued n hd e hb
        obtain ⟨_, room', heq'⟩ := h'.queued n ((hdelivered n).2 hd) e hb
        rw [heq, heq']
      · rw [(h.dropped n hp e hb).2.2, (h'.dropped n ((hpruned n).2 hp) e hb).2.2]
  · rw [h'.binds_iff, h.binds_iff, hpruned]

end FansOut

namespace Program

variable {store : Store} {message : Message} {stamp : Timestamp} {recipients : List Binding}

section

variable (h : store.Distinct)
  (hperm : recipients.Perm (store.registry.snapshotExcept message.sender))
include h hperm

theorem nodup_recipients : (recipients.map Prod.snd).Nodup :=
  (hperm.map Prod.snd).nodup_iff.2 (h.nodup_snapshotExcept message.sender)

omit h in
theorem mem_recipients_iff {n : Name} {e : EndpointId} :
    (n, e) ∈ recipients ↔ store.Binds n e ∧ n ≠ message.sender := by
  rw [hperm.mem_iff, Registry.mem_snapshotExcept, Store.Binds]

theorem mem_delivered {n : Name} :
    n ∈ ((handOut ⟨message, stamp⟩ .empty recipients).run stamp store).1.delivered ↔
      ∃ e, store.Binds n e ∧ n ≠ message.sender ∧ store.refusal? e = none := by
  rw [report_handOut _ _ (nodup_recipients h hperm)]
  simp [Report.empty, mem_recipients_iff hperm, and_assoc]

theorem mem_pruned {n : Name} :
    n ∈ ((handOut ⟨message, stamp⟩ .empty recipients).run stamp store).1.pruned ↔
      ∃ e, store.Binds n e ∧ n ≠ message.sender ∧ store.refusal? e ≠ none := by
  rw [report_handOut _ _ (nodup_recipients h hperm)]
  simp [Report.empty, mem_recipients_iff hperm, and_assoc]

theorem nodup_report :
    (((handOut ⟨message, stamp⟩ .empty recipients).run stamp store).1.delivered ++
      ((handOut ⟨message, stamp⟩ .empty recipients).run stamp store).1.pruned).Nodup := by
  have hnames : (recipients.map Prod.fst).Nodup :=
    (hperm.map Prod.fst).nodup_iff.2
      (Listing.snapshotExcept (List.mem_singleton.2 rfl) message.sender).once
  have hsplit := List.filter_append_perm (fun b : Binding => store.refusal? b.2 = none) recipients
  rw [report_handOut _ _ (nodup_recipients h hperm)]
  simp only [Report.empty, List.nil_append, ← List.map_append, ne_eq, decide_not]
  exact ((hsplit.map Prod.fst).nodup_iff).2 hnames

theorem binds_after {n : Name} {e : EndpointId} :
    ((handOut ⟨message, stamp⟩ .empty recipients).run stamp store).2.Binds n e ↔
      store.Binds n e ∧ (n ≠ message.sender → store.refusal? e = none) := by
  rw [binds_handOut _ _ (nodup_recipients h hperm), mem_recipients_iff hperm]
  exact and_congr_right fun hb => ⟨fun hr hne => hr ⟨hb, hne⟩, fun hr hne => hr hne.2⟩

/-- Whoever holds another name than the sender's is made an offer. -/
theorem endpoint_after {n : Name} {e : EndpointId} (hb : store.Binds n e)
    (hne : n ≠ message.sender) :
    ((handOut ⟨message, stamp⟩ .empty recipients).run stamp store).2.endpoint e =
      (store.endpoint e).offer ⟨message, stamp⟩ := by
  have hmem : e ∈ recipients.map Prod.snd :=
    List.mem_map_of_mem ((mem_recipients_iff hperm).2 ⟨hb, hne⟩)
  rw [endpoint_handOut _ _ (nodup_recipients h hperm), if_pos hmem]

/-- In whatever order the recipients are tried, this is what comes of it. -/
theorem fansOut_handOut :
    FansOut message stamp store
      ((handOut ⟨message, stamp⟩ .empty recipients).run stamp store).1
      ((handOut ⟨message, stamp⟩ .empty recipients).run stamp store).2 where
  nodup := nodup_report h hperm
  mem_iff n := by
    rw [List.mem_append, mem_delivered h hperm, mem_pruned h hperm, Registry.mem_names]
    constructor
    · rintro (⟨e, hb, hne, _⟩ | ⟨e, hb, hne, _⟩) <;> exact ⟨⟨e, hb⟩, hne⟩
    · rintro ⟨⟨e, hb⟩, hne⟩
      by_cases hr : store.refusal? e = none
      · exact .inl ⟨e, hb, hne, hr⟩
      · exact .inr ⟨e, hb, hne, hr⟩
  delivered_iff n := by
    rw [mem_delivered h hperm]
    simp only [Store.refusal?, Endpoint.refusal?_eq_none]
  queued n hd e hb := by
    obtain ⟨e', hb', hne, hr⟩ := (mem_delivered h hperm).1 hd
    obtain rfl := hb.unique hb'
    refine ⟨(binds_after h hperm).2 ⟨hb, fun _ => hr⟩, ?_⟩
    rw [endpoint_after h hperm hb hne]
    exact Endpoint.offer_of_taken _ hr
  dropped n hp e hb := by
    obtain ⟨e', hb', hne, hr⟩ := (mem_pruned h hperm).1 hp
    obtain rfl := hb.unique hb'
    obtain ⟨refusal, hrefusal⟩ := Option.ne_none_iff_exists'.1 hr
    have hclosed : ((handOut ⟨message, stamp⟩ .empty recipients).run stamp store).2.endpoint e =
        (store.endpoint e).close := by
      rw [endpoint_after h hperm hb hne]
      exact Endpoint.offer_of_refused _ hrefusal
    refine ⟨fun m hm => ?_, ?_, hclosed⟩
    · obtain ⟨hbm, hrm⟩ := (binds_after h hperm).1 hm
      rw [h.eq_of_binds hbm hb] at hrm
      exact hr (hrm hne)
    · rw [Store.Closed, hclosed]
      exact Endpoint.isClosed_close _
  bystander e hbystander := by
    rw [endpoint_handOut _ _ (nodup_recipients h hperm), if_neg]
    intro he
    obtain ⟨⟨n, e'⟩, hmem, rfl⟩ := List.mem_map.1 he
    obtain ⟨hb, hne⟩ := (mem_recipients_iff hperm).1 hmem
    exact hne (hbystander n hb)
  binds_iff n e := by
    rw [binds_after h hperm, mem_pruned h hperm]
    refine and_congr_right fun hb => ⟨?_, ?_⟩
    · rintro hr ⟨e', hb', hne, hr'⟩
      obtain rfl := hb.unique hb'
      exact hr' (hr hne)
    · intro hnot hne
      by_contra hr
      exact hnot ⟨e, hb, hne, hr⟩
  size_eq := (inbounds_handOut _ _).2
  inbounds_eq := (inbounds_handOut _ _).1
  stopped_eq := (within_handOut _ _ _).stopped_eq (by simp)

end

end Program

/-- **Fan-out of one broadcast.** On a store in which no endpoint holds two names, a broadcast reads
the clock once and may list the entries in every order. Whatever the order, everybody but the sender
is reported exactly once: as reached if the endpoint was open and not full, and then the message is
at the end of its queue with the one time stamp; as dropped otherwise, and then it is unbound and
closed, with what was queued as it was. Nobody else's endpoint or binding changes. Another order
makes no difference to the store, nor to the report but for its order. -/
theorem fan_out {store : Store} (h : store.Distinct) (message : Message) :
    (∀ stamp recipients, recipients.Perm (store.registry.snapshotExcept message.sender) →
      ∃ events report after, (Program.broadcast message).MayRun store
        ([⟨.now, stamp⟩, ⟨.snapshotExcept message.sender, recipients⟩] ++ events) report after) ∧
    ∀ events report after, (Program.broadcast message).MayRun store events report after →
      ∃ stamp, readings events = [stamp] ∧ FansOut message stamp store report after ∧
        ∀ events' report' after',
          (Program.broadcast message).MayRun store events' report' after' →
          readings events' = [stamp] →
          report'.delivered.Perm report.delivered ∧ report'.pruned.Perm report.pruned ∧
            after' = after := by
  have houtcome : ∀ {events report after},
      (Program.broadcast message).MayRun store events report after →
      ∃ stamp, readings events = [stamp] ∧ FansOut message stamp store report after := by
    intro events report after hrun
    obtain ⟨stamp, recipients, hperm, hout, rfl⟩ := Program.mayRun_broadcast.1 hrun
    refine ⟨stamp, ?_, ?_⟩
    · have hwithin := Program.within_handOut ⟨message, stamp⟩ .empty recipients
      have hsilent : OfKinds _ (Program.trace stamp _ store) := hwithin.ofKinds
      rw [readings_append, hsilent.readings_eq (by simp)]
      rfl
    · have hfans := @Program.fansOut_handOut store message stamp recipients h hperm
      rwa [hout] at hfans
  refine ⟨fun stamp recipients hperm => ?_, fun events report after hrun => ?_⟩
  · exact ⟨_, _, _, Program.mayRun_broadcast.2 ⟨stamp, recipients, hperm, rfl, rfl⟩⟩
  · obtain ⟨stamp, hclock, hfans⟩ := houtcome hrun
    refine ⟨stamp, hclock, hfans, fun events' report' after' hrun' hclock' => ?_⟩
    obtain ⟨stamp', hstamp, hfans'⟩ := houtcome hrun'
    obtain rfl : stamp' = stamp := by
      rw [hclock'] at hstamp
      exact (List.cons.inj hstamp).1.symm
    exact hfans.unique hfans'

namespace Sample

def dave : Name := ⟨"dave", by decide, by decide⟩

def erin : Name := ⟨"erin", by decide, by decide⟩

/-- Queues hold one delivery: Dave's client is gone but not yet found out, Erin's queue is full,
Alice and Bob listen. -/
def crowded : Store :=
  ((Stage.new { capacity := 1 }).run [(⟨0⟩, .openSession),
    (⟨1⟩, .arrive ⟨0⟩ (.message ⟨dave, .empty⟩)), (⟨2⟩, .turn ⟨0⟩), (⟨3⟩, .openListener erin),
    (⟨4⟩, .submit ⟨dave, .empty⟩), (⟨5⟩, .dropOutbound ⟨0⟩), (⟨6⟩, .openListener bob),
    (⟨7⟩, .openListener alice)]).hub.store

end Sample

/-- In every order, Alice's message reaches Bob and drops Dave and Erin. -/
theorem fan_out_crowded :
    Sample.crowded.Distinct ∧ ∀ events report after,
      (Program.broadcast ⟨Sample.alice, .empty⟩).MayRun Sample.crowded events report after →
      readings events = [⟨9⟩] →
      report.delivered.Perm [Sample.bob] ∧ report.pruned.Perm [Sample.dave, Sample.erin] ∧
        after = ((Program.broadcast ⟨Sample.alice, .empty⟩).run ⟨9⟩ Sample.crowded).2 := by
  have hdistinct : Sample.crowded.Distinct := by unfold Store.Distinct; decide
  refine ⟨hdistinct, fun events report after hrun hclock => ?_⟩
  obtain ⟨_, hall⟩ := fan_out hdistinct ⟨Sample.alice, .empty⟩
  obtain ⟨stamp, hstamp, _, hothers⟩ := hall _ _ _
    (Program.mayRun_run ⟨9⟩ (Program.broadcast ⟨Sample.alice, .empty⟩) Sample.crowded)
  obtain rfl : ⟨9⟩ = stamp := (List.cons.inj hstamp).1
  exact hothers events report after hrun hclock

end BroadcastChat
