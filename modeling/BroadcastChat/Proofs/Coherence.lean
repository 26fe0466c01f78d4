/-
# The registry and what it stands for

At every stage of a run the registry binds no name twice and no endpoint
twice, and whoever was registered once and is not bound any more is closed
(`Books`). When no session has anything to do, the names that are bound are
those of the sessions that are active and of the listeners that still serve:
nobody has let go of them, superseded them or dropped them over a delivery,
and the hub runs. For the listeners this takes an invariant of its own, since
a listener does nothing by itself and does not notice what became of it
(`Stage.Tended`).

Key definitions: `Stage.Serves`, `Stage.Tended`.
Key theorems: `Moment.not_binds_of_refused`, `Stage.Tended.step`,
`Stage.mem_names_iff`, `coherence`.
-/
import BroadcastChat.Proofs.Delivery

namespace BroadcastChat

variable {log : List Event} {n : Name} {e : EndpointId}

/-! ### What a moment can do to a listener -/

namespace Moment

theorem binds_before (moment : Moment) (h : moment.after.hub.store.Binds n e) :
    moment.stage.hub.store.Binds n e ∨ Registered moment.trace n e := by
  obtain ⟨α, p, before, hrun⟩ := moment.exists_run
  rw [hrun.store_eq] at h
  rw [hrun.trace_eq, ← hrun.alike.binds_iff]
  exact Program.binds_of_run h

/-- Who refuses a delivery has held a name and holds none any more. -/
theorem not_binds_of_refused (moment : Moment) (h : moment.stage.Sound log) {r : Refusal}
    (hr : (e, r) ∈ refusals moment.trace) :
    (∃ n, Registered log n e) ∧ ∀ n, ¬moment.after.hub.store.Binds n e := by
  cases hd : moment.spoken? with
  | none =>
    rw [(kinds_of_silent hd).refusals_eq (by decide)] at hr
    cases hr
  | some d =>
    obtain ⟨before, mid, hspeech⟩ := exists_speech h hd
    rw [hspeech.trace_eq, refusals_append, hspeech.kinds.refusals_eq (by decide), List.nil_append,
      Program.mem_refusals_broadcast hspeech.distinct] at hr
    obtain ⟨n, hb, hne, hrefusal⟩ := hr
    refine ⟨⟨n, h.books.registered_of_binds (hspeech.binds_before hb hne)⟩, fun n' hb' => ?_⟩
    rw [hspeech.store_eq, Program.binds_broadcast hspeech.distinct] at hb'
    have hname : n' = n := hspeech.distinct.eq_of_binds hb'.1 hb
    rw [hname] at hb'
    rw [hb'.2 hne] at hrefusal
    cases hrefusal

end Moment

theorem Program.stopped_shutDown {time : Timestamp} {store : Store} :
    (shutDown.run time store).2.stopped = true := by
  rw [shutDown, stop, run_act_bind]
  exact stopped_run rfl

theorem Program.drops_openListener {time : Timestamp} {store : Store} (capacity : Nat)
    (name : Name) : drops ((openListener capacity name).trace time store) = [] := by
  cases hs : store.stopped with
  | true =>
    rw [(openListener_stopped time hs capacity name).2, ← List.singleton_append, drops_append,
      (within_closedListener name).ofKinds.drops_eq (by decide)]
    rfl
  | false =>
    rw [(openListener_running time hs capacity name).2, ← List.singleton_append, drops_append,
      drops_append, (within_subscribe capacity name).ofKinds.drops_eq (by decide)]
    rfl

/-- The stream of a new listener is whole, and on a hub that runs the listener holds its name. -/
theorem Program.posted_openListener {time : Timestamp} {store after : Store} {capacity : Nat}
    {name : Name} {l : Listener} (h : (openListener capacity name).run time store = (l, after)) :
    (after.endpoint l.endpoint).dropped = false ∧
      (after.stopped = false → l.enrolled = true ∧ after.Binds l.name l.endpoint) := by
  cases hs : store.stopped with
  | false =>
    obtain ⟨hlistener, hbinds, hdropped⟩ := openListener_binds time hs capacity name
    rw [h] at hlistener hbinds hdropped
    dsimp only at hlistener hbinds hdropped
    rw [hlistener]
    exact ⟨hdropped, fun _ => ⟨rfl, hbinds⟩⟩
  | true =>
    obtain ⟨hrun, _⟩ := openListener_stopped time hs capacity name
    rw [h] at hrun
    have hstopped : ((closedListener name).run time store).2.stopped = true := stopped_run hs
    rw [← hrun] at hstopped
    refine ⟨?_, fun hrunning => ?_⟩
    · rw [closedListener, create, run_act_bind, close, run_act_bind, run_pure] at hrun
      cases hrun
      have hclose : ∀ e, Action.close e ≠ .drop (store.newEndpoint 1).1 := by simp
      have hnew : (store.newEndpoint 1).2.Has (store.newEndpoint 1).1 :=
        Store.has_newEndpoint.2 (.inr rfl)
      refine (Action.dropped_perform hnew (hclose _)).trans ?_
      exact congrArg Endpoint.dropped (Store.endpoint_newEndpoint_self store 1)
    · rw [hstopped] at hrunning
      cases hrunning

theorem Program.eq_of_mem_drops_letGo {time : Timestamp} {store : Store} {listener : Listener}
    (h : e ∈ drops ((letGo listener).trace time store)) : e = listener.endpoint := by
  have hlast : ∀ store : Store, e ∈ drops ((close listener.endpoint >>= fun _ =>
      drop listener.endpoint).trace time store) → e = listener.endpoint := by
    intro store hm
    rw [close, trace_act_bind, ← List.singleton_append, drops_append] at hm
    exact List.mem_singleton.1 hm
  unfold letGo at h
  by_cases henrolled : listener.enrolled = true
  · rw [if_pos henrolled, removeIfCurrent, trace_act_bind, ← List.singleton_append,
      drops_append] at h
    exact hlast _ h
  · rw [if_neg henrolled] at h
    exact hlast store h

/-- Streams are dropped only with their listeners or by the clients of sessions. -/
theorem Moment.owner_of_mem_drops {moment : Moment} (h : e ∈ drops moment.trace) :
    (∃ listener ∈ moment.stage.listeners, moment.move = .letGo listener ∧
      listener.endpoint = e) ∨
    ∃ id session, moment.move = .dropOutbound id ∧
      moment.stage.hub.session? id = some session ∧ session.endpoint = e := by
  obtain ⟨stage, time, move⟩ := moment
  have hnone : ∀ {log : List Event}, OfKinds [.create, .register, .deliver, .remove, .drain,
      .close, .stop, .receive, .now, .other] log → e ∉ drops log := by
    intro log hkinds
    rw [hkinds.drops_eq (by decide)]
    exact List.not_mem_nil
  cases move with
  | letGo listener =>
    by_cases hl : listener ∈ stage.listeners
    · rw [(isRun_letGo time hl).trace_eq] at h
      exact .inl ⟨listener, hl, rfl, (Program.eq_of_mem_drops_letGo h).symm⟩
    · simp only [trace, Stage.trace, if_neg hl] at h
      cases h
  | dropOutbound id =>
    cases hsession : stage.hub.session? id with
    | none =>
      simp only [trace, Stage.trace, hsession] at h
      cases h
    | some session =>
      rw [(isRun_dropOutbound time hsession).trace_eq] at h
      exact .inr ⟨id, session, rfl, hsession, (List.mem_singleton.1 h).symm⟩
  | submit message =>
    exact absurd h (hnone ((Program.within_submit message).ofKinds.mono (by decide)))
  | openListener name =>
    rw [(isRun_openListener stage time name).trace_eq, Program.drops_openListener] at h
    cases h
  | openSession => exact absurd h (hnone ((Session.within_start _ _).ofKinds.mono (by decide)))
  | turn id =>
    cases hturn : stage.hub.turn time id with
    | none =>
      simp only [trace, Stage.trace, hturn] at h
      cases h
    | some hub =>
      obtain ⟨session, _, hsession, _⟩ := Stage.turn_eq_some hturn
      rw [(isRun_turn hsession hturn).trace_eq] at h
      exact absurd h (hnone ((session.within_turn _).ofKinds.mono (by decide)))
  | shutDown => exact absurd h (hnone (Program.within_shutDown.ofKinds.mono (by decide)))
  | arrive id arrival => cases h
  | endInput id => cases h
  | read id => cases h

/-! ### Owners -/

namespace Stage

variable {stage : Stage}

theorem Sound.nodup_owners (h : stage.Sound log) :
    (stage.hub.sessions.toList.map (·.endpoint) ++ stage.listeners.map (·.endpoint)).Nodup := by
  have hnodup := h.books.owned_nodup
  have hsessions : Note.owned? ∘ Session.note = some ∘ (·.endpoint) :=
    funext fun session => session.owned_note
  have hlisteners : Note.owned? ∘ Listener.note = some ∘ (·.endpoint) :=
    funext fun listener => listener.owned_note
  rw [notes, Multiset.filterMap_add, Multiset.filterMap_coe, Multiset.filterMap_coe,
    List.filterMap_map, List.filterMap_map, hsessions, hlisteners, List.filterMap_eq_map,
    List.filterMap_eq_map, Multiset.coe_add, Multiset.coe_nodup] at hnodup
  exact hnodup

theorem Sound.endpoint_ne (h : stage.Sound log) {session : Session} {listener : Listener}
    (hs : session ∈ stage.hub.sessions.toList) (hl : listener ∈ stage.listeners) :
    session.endpoint ≠ listener.endpoint :=
  (List.nodup_append.1 h.nodup_owners).2.2 _ (List.mem_map_of_mem hs) _ (List.mem_map_of_mem hl)

theorem Sound.listener_unique (h : stage.Sound log) {l l' : Listener} (hl : l ∈ stage.listeners)
    (hl' : l' ∈ stage.listeners) (heq : l.endpoint = l'.endpoint) : l = l' :=
  List.inj_on_of_nodup_map (List.nodup_append.1 h.nodup_owners).2.1 hl hl' heq

/-- A listener that was there before a move was not let go of; a new one was just opened. -/
theorem Sound.listener_after (h : stage.Sound log) {time : Timestamp} {move : Move} {l : Listener}
    (hl : l ∈ (stage.step time move).listeners) :
    l ∈ stage.listeners ∧ move ≠ .letGo l ∨
      ∃ name, move = .openListener name ∧ l = (stage.hub.openListener time name).1 := by
  cases move with
  | openListener name =>
    rcases List.mem_cons.1 hl with heq | hl
    · exact .inr ⟨name, rfl, heq⟩
    · exact .inl ⟨hl, by simp⟩
  | letGo listener =>
    by_cases hlet : listener ∈ stage.listeners
    · simp only [Stage.step, if_pos hlet] at hl
      refine .inl ⟨List.mem_of_mem_erase hl, fun heq => ?_⟩
      cases heq
      have hnodup : stage.listeners.Nodup :=
        ((List.nodup_append.1 h.nodup_owners).2.1).of_map _
      exact (hnodup.mem_erase_iff.1 hl).1 rfl
    · simp only [Stage.step, if_neg hlet] at hl
      refine .inl ⟨hl, fun heq => ?_⟩
      cases heq
      exact hlet hl
  | dropOutbound id =>
    simp only [Stage.step] at hl
    split at hl <;> exact .inl ⟨hl, by simp⟩
  | _ => exact .inl ⟨hl, by simp⟩

/-! ### Listeners that serve -/

/-- The listener was not superseded, not dropped over a delivery, and the hub was not stopped. -/
def Serves (stage : Stage) (log : List Event) (listener : Listener) : Prop :=
  lastHolder log listener.name = some listener.endpoint ∧
    (∀ r, (listener.endpoint, r) ∉ refusals log) ∧ stage.hub.isShutDown = false

/-- What is true of the listeners between moves. -/
structure Tended (stage : Stage) (log : List Event) : Prop where
  refused : ∀ {e r}, (e, r) ∈ refusals log →
    (∃ n, Registered log n e) ∧ ∀ n, ¬stage.hub.store.Binds n e
  whole : ∀ l ∈ stage.listeners, (stage.hub.store.endpoint l.endpoint).dropped = false
  enrolled : ∀ l ∈ stage.listeners, stage.hub.isShutDown = false → l.enrolled = true
  posted : ∀ l ∈ stage.listeners, stage.Serves log l → stage.hub.store.Binds l.name l.endpoint

theorem tended_new (settings : HubSettings) : (new settings).Tended [] where
  refused hr := by cases hr
  whole _ hl := by cases hl
  enrolled _ hl := by cases hl
  posted _ hl := by cases hl

theorem Sound.registered_of_enrolled (h : stage.Sound log) {l : Listener}
    (hl : l ∈ stage.listeners) (he : l.enrolled = true) : Registered log l.name l.endpoint := by
  have hnote : Note.settled l.name l.endpoint ∈ stage.notes := by
    refine mem_notes.2 (.inr ⟨l, hl, ?_⟩)
    rw [Listener.note, if_pos he]
  exact (h.books.sound _ hnote).1

end Stage

namespace Moment

variable {moment : Moment}

theorem stopped_before (moment : Moment) (h : moment.after.hub.isShutDown = false) :
    moment.stage.hub.isShutDown = false := by
  obtain ⟨α, p, before, hrun⟩ := moment.exists_run
  cases hs : moment.stage.hub.isShutDown with
  | false => rfl
  | true =>
    have hstopped : (p.run moment.time before).2.stopped = true :=
      Program.stopped_run (hrun.alike.stopped_eq.trans hs)
    rw [Hub.isShutDown, hrun.store_eq, hstopped] at h
    cases h

theorem dropped_after (moment : Moment) (hh : moment.stage.hub.store.Has e)
    (hm : e ∉ drops moment.trace) :
    (moment.after.hub.store.endpoint e).dropped =
      (moment.stage.hub.store.endpoint e).dropped := by
  obtain ⟨α, p, before, hrun⟩ := moment.exists_run
  rw [hrun.trace_eq] at hm
  rw [hrun.store_eq, Program.dropped_run ((hrun.alike.has_iff e).2 hh) hm, hrun.alike.dropped_eq]

/-- Nobody else drops a listener's stream. -/
theorem listener_not_dropped (h : moment.stage.Sound log) {l : Listener}
    (hl : l ∈ moment.stage.listeners) (hkept : moment.move ≠ .letGo l) :
    l.endpoint ∉ drops moment.trace := by
  intro hm
  rcases owner_of_mem_drops hm with ⟨l', hl', hmove, heq⟩ | ⟨id, session, _, hsession, heq⟩
  · rw [h.listener_unique hl' hl heq] at hmove
    exact hkept hmove
  · exact h.endpoint_ne (Stage.mem_sessions hsession) hl heq

/-- A listener that was there before keeps its post as long as it serves. -/
theorem posted_after (moment : Moment) (h : moment.stage.Sound log)
    (ht : moment.stage.Tended log) {l : Listener} (hl : l ∈ moment.stage.listeners)
    (hkept : moment.move ≠ .letGo l) (hafter : l ∈ moment.after.listeners)
    (hserves : moment.after.Serves (log ++ moment.trace) l) :
    moment.after.hub.store.Binds l.name l.endpoint := by
  obtain ⟨hlast, hrefused, hrunning⟩ := hserves
  have hnext : moment.after.Sound (log ++ moment.trace) := h.step moment.time moment.move
  have hreg : Registered log l.name l.endpoint :=
    h.registered_of_enrolled hl (ht.enrolled l hl (moment.stopped_before hrunning))
  have hnewer : lastHolder moment.trace l.name = none := by
    cases hnew : lastHolder moment.trace l.name with
    | none => rfl
    | some x =>
      rw [lastHolder_append, hnew, Option.some_or] at hlast
      cases hlast
      exact absurd (registered_of_lastHolder hnew) (hnext.books.registered_once hreg)
  have hbefore : moment.stage.Serves log l := by
    refine ⟨?_, fun r hr => hrefused r ?_, moment.stopped_before hrunning⟩
    · rwa [lastHolder_append, hnewer, Option.none_or] at hlast
    · rw [refusals_append]
      exact List.mem_append_left _ hr
  have hbinds := ht.posted l hl hbefore
  have hopen := h.books.open_of_binds hbinds (ht.whole l hl)
  refine ((fate h hbinds hopen).spared ?_).2.1
  rw [Bool.eq_false_iff, Ne, silences_iff]
  rintro (⟨x, hx⟩ | hdrop | hfull | hends | hstop)
  · exact not_registered_of_lastHolder hnewer x hx
  · exact listener_not_dropped h hl hkept hdrop
  · refine hrefused .full ?_
    rw [refusals_append]
    exact List.mem_append_right _ hfull
  · obtain ⟨stage, time, move⟩ := moment
    cases move with
    | letGo l' =>
      simp only [ends, Bool.and_eq_true, List.contains_iff_mem, beq_iff_eq] at hends
      refine hkept ?_
      rw [h.listener_unique hl hends.1 hends.2.symm]
    | turn id =>
      obtain ⟨session, hsession, hover⟩ := (Option.any_eq_true _ _).1 hends
      simp only [Bool.and_eq_true, beq_iff_eq] at hover
      exact hnext.endpoint_ne (Stage.mem_sessions hsession) hafter hover.1
    | _ => cases hends
  · obtain ⟨stage, time, move⟩ := moment
    cases hstop
    have hstopped : (after ⟨stage, time, .shutDown⟩).hub.isShutDown = true :=
      Program.stopped_shutDown
    rw [hstopped] at hrunning
    cases hrunning

end Moment

namespace Stage

variable {stage : Stage}

/-- **What is true of the listeners stays true in every move.** -/
theorem Tended.step (h : stage.Tended log) (hsound : stage.Sound log) (time : Timestamp)
    (move : Move) : (stage.step time move).Tended (log ++ stage.trace time move) := by
  have hnext : (stage.step time move).Sound (log ++ stage.trace time move) :=
    hsound.step time move
  refine ⟨?_, ?_, ?_, ?_⟩
  · intro e r hr
    rw [refusals_append, List.mem_append] at hr
    rcases hr with hr | hr
    · obtain ⟨⟨n, hreg⟩, hfree⟩ := h.refused hr
      refine ⟨⟨n, registered_append.2 (.inl hreg)⟩, fun n' hb => ?_⟩
      rcases Moment.binds_before ⟨stage, time, move⟩ hb with hb' | hreg'
      · exact hfree n' hb'
      · exact hnext.books.registered_once hreg hreg'
    · obtain ⟨⟨n, hreg⟩, hfree⟩ :=
        Moment.not_binds_of_refused ⟨stage, time, move⟩ hsound hr
      exact ⟨⟨n, registered_append.2 (.inl hreg)⟩, hfree⟩
  · intro l hl
    rcases hsound.listener_after hl with ⟨hold, hkept⟩ | ⟨name, rfl, rfl⟩
    · have hhas : stage.hub.store.Has l.endpoint :=
        hsound.books.has_owned (mem_notes.2 (.inr ⟨l, hold, rfl⟩)) l.owned_note
      have hdropped := Moment.dropped_after ⟨stage, time, move⟩ hhas
        (Moment.listener_not_dropped hsound hold hkept)
      exact hdropped.trans (h.whole l hold)
    · exact (Program.posted_openListener rfl).1
  · intro l hl hrunning
    rcases hsound.listener_after hl with ⟨hold, _⟩ | ⟨name, rfl, rfl⟩
    · exact h.enrolled l hold (Moment.stopped_before ⟨stage, time, move⟩ hrunning)
    · exact ((Program.posted_openListener rfl).2 hrunning).1
  · intro l hl hserves
    rcases hsound.listener_after hl with ⟨hold, hkept⟩ | ⟨name, rfl, rfl⟩
    · exact Moment.posted_after ⟨stage, time, move⟩ hsound h hold hkept hl hserves
    · exact ((Program.posted_openListener rfl).2 hserves.2.2).2

theorem Tended.run (moves : List (Timestamp × Move)) (h : stage.Tended log)
    (hsound : stage.Sound log) : (stage.run moves).Tended (log ++ logOf (history moves stage)) := by
  induction moves generalizing stage log with
  | nil =>
    rw [history, logOf_nil, List.append_nil]
    exact h
  | cons move rest ih =>
    rw [history, logOf_cons, ← List.append_assoc]
    exact ih (h.step hsound move.1 move.2) (hsound.step move.1 move.2)

end Stage

/-! ### When nobody has anything to do -/

/-- No session can take a turn. -/
def Hub.Settled (time : Timestamp) (hub : Hub) : Prop := ∀ id, hub.turn time id = none

/-- A session that is not over and has nothing to do runs on a hub that runs, with an open
endpoint. -/
theorem Hub.Settled.open_of_mem {time : Timestamp} {hub : Hub} {session : Session}
    (h : hub.Settled time) (hm : session ∈ hub.sessions.toList) (hover : session.isOver = false) :
    hub.store.stopped = false ∧ ¬hub.store.Closed session.endpoint := by
  obtain ⟨index, hget⟩ := Array.mem_iff_getElem?.1 (Array.mem_toList_iff.1 hm)
  have hsession : hub.session? ⟨index⟩ = some session := hget
  have hnothing : ∀ ending,
      (session.nextEvent.run time hub.store).1 ≠ some (.ending ending) := by
    intro ending hnext
    have hturn := Hub.turn_of_heard? hsession hover hnext
    rw [h ⟨index⟩] at hturn
    cases hturn
  exact Session.open_of_not_ending hnothing

/-- It is enough to look at the sessions there are. -/
theorem Hub.settled_of_sessions {time : Timestamp} {hub : Hub}
    (h : ∀ index < hub.sessions.size, (hub.turn time ⟨index⟩).isNone = true) :
    hub.Settled time := by
  intro id
  by_cases hid : id.index < hub.sessions.size
  · exact Option.isNone_iff_eq_none.1 (h id.index hid)
  · have hnone : hub.session? id = none := Array.getElem?_eq_none (Nat.le_of_not_lt hid)
    rw [turn, hnone]

namespace Stage

variable {stage : Stage}

/-- Who is bound is a session that is active or a listener that serves. -/
theorem Tended.served_of_binds {time : Timestamp} (h : stage.Tended log) (hsound : stage.Sound log)
    (hsettled : stage.hub.Settled time) (hb : stage.hub.store.Binds n e) :
    ¬stage.hub.store.Closed e ∧
      ((∃ session ∈ stage.hub.sessions.toList, session.state = .active n) ∨
        ∃ l ∈ stage.listeners, l.name = n ∧ stage.Serves log l) := by
  rcases hsound.books.held_of_binds hb with hm | hm
  · rcases mem_notes.1 hm with ⟨session, hmem, hnote⟩ | ⟨l, _, hnote⟩
    · unfold Session.note at hnote
      split at hnote
      · cases hnote
      · rename_i name hs
        cases hnote
        have hover : session.isOver = false := by
          rw [Session.isOver, hs]
          rfl
        exact ⟨(hsettled.open_of_mem hmem hover).2, .inl ⟨session, hmem, hs⟩⟩
      · rename_i name outcome hs
        exact absurd hs (hsound.rests session hmem name outcome)
      · cases hnote
    · unfold Listener.note at hnote
      split at hnote <;> cases hnote
  · rcases mem_notes.1 hm with ⟨session, _, hnote⟩ | ⟨l, hmem, hnote⟩
    · unfold Session.note at hnote
      split at hnote <;> cases hnote
    · unfold Listener.note at hnote
      split at hnote
      · cases hnote
        have hopen := hsound.books.open_of_binds hb (h.whole l hmem)
        refine ⟨hopen, .inr ⟨l, hmem, rfl, hsound.books.last_of_binds hb, ?_, ?_⟩⟩
        · exact fun r hr => (h.refused hr).2 _ hb
        · -- a hub that was stopped has emptied the registry, and the listener has not come back
          rw [Hub.isShutDown, Bool.eq_false_iff]
          intro hstopped
          rcases hsound.books.swept_of_stopped hstopped with hswept | hhalted
          · exact (hsound.books.sound _ hm).2 hswept hb
          · cases owned_of_mem_notes hhalted
      · cases hnote

theorem Sound.binds_of_active {time : Timestamp} (hsound : stage.Sound log)
    (hsettled : stage.hub.Settled time) {session : Session}
    (hm : session ∈ stage.hub.sessions.toList) (hs : session.state = .active n) :
    stage.hub.store.Binds n session.endpoint := by
  have hover : session.isOver = false := by
    rw [Session.isOver, hs]
    rfl
  have hnote : Note.held n session.endpoint ∈ stage.notes := by
    refine mem_notes.2 (.inl ⟨session, hm, ?_⟩)
    rw [Session.note, hs]
  have hreg : Registered log n session.endpoint := hsound.books.sound _ hnote
  exact (hsound.closed_or_binds hreg).resolve_left (hsettled.open_of_mem hm hover).2

/-- **When nobody has anything to do, the names are those of the active sessions and of the
listeners that serve.** -/
theorem mem_names_iff {time : Timestamp} (h : stage.Tended log) (hsound : stage.Sound log)
    (hsettled : stage.hub.Settled time) : n ∈ stage.hub.names ↔
      (∃ session ∈ stage.hub.sessions.toList, session.state = .active n) ∨
        ∃ l ∈ stage.listeners, l.name = n ∧ stage.Serves log l := by
  rw [Hub.names, Registry.mem_names]
  constructor
  · rintro ⟨e, hb⟩
    exact (h.served_of_binds hsound hsettled hb).2
  · rintro (⟨session, hm, hs⟩ | ⟨l, hm, rfl, hserves⟩)
    · exact ⟨_, hsound.binds_of_active hsettled hm hs⟩
    · exact ⟨_, h.posted l hm hserves⟩

end Stage

theorem Stage.Sound.eq_of_open {stage : Stage} {e' : EndpointId} (h : stage.Sound log)
    (hr : Registered log n e) (hr' : Registered log n e') (hc : ¬stage.hub.store.Closed e)
    (hc' : ¬stage.hub.store.Closed e') : e = e' :=
  ((h.closed_or_binds hr).resolve_left hc).unique ((h.closed_or_binds hr').resolve_left hc')

/-- **Coherence of the registry.** At every stage of a run of a hub, no name has two bindings and
no endpoint two names; whoever was registered and is not bound is closed, so that of all who were
registered under a name at most one is open; and when no session can take a turn, everybody bound
is open and the names, in ascending order, are those of the sessions that are active and of the
listeners that were neither let go of nor superseded nor dropped nor stopped. -/
theorem coherence (settings : HubSettings) (moves : List (Timestamp × Move)) :
    let stage := (Stage.new settings).run moves
    let log := logOf (history moves (.new settings))
    (stage.hub.names.Nodup ∧ stage.hub.store.Distinct) ∧
    (∀ n e, Registered log n e → ¬stage.hub.store.Binds n e → stage.hub.store.Closed e) ∧
    (∀ n e e', Registered log n e → Registered log n e' → ¬stage.hub.store.Closed e →
      ¬stage.hub.store.Closed e' → e = e') ∧
    ∀ time, stage.hub.Settled time →
      (∀ n e, stage.hub.store.Binds n e → ¬stage.hub.store.Closed e) ∧
      stage.hub.names.Pairwise (· < ·) ∧
      ∀ n, n ∈ stage.hub.names ↔
        (∃ session ∈ stage.hub.sessions.toList, session.state = .active n) ∨
          ∃ l ∈ stage.listeners, l.name = n ∧ stage.Serves log l := by
  intro stage log
  have hsound : stage.Sound log := Stage.sound_run settings moves
  have htended : stage.Tended log :=
    (Stage.tended_new settings).run moves (Stage.sound_new settings)
  have hnames : stage.hub.names.Pairwise (· < ·) := stage.hub.store.registry.pairwise_names
  refine ⟨⟨?_, hsound.books.distinct⟩, ?_, fun n e e' => hsound.eq_of_open, ?_⟩
  · exact hnames.imp fun hlt => Name.ne_of_lt hlt
  · exact fun n e hr hb => (hsound.closed_or_binds hr).resolve_right hb
  · intro time hsettled
    refine ⟨fun n e hb => (htended.served_of_binds hsound hsettled hb).1, hnames, fun n => ?_⟩
    exact Stage.mem_names_iff htended hsound hsettled

/-- When Alice's first listener was superseded and Bob has spoken, the first listener is closed,
and whoever is bound is open. -/
theorem coherence_superseding :
    ((Stage.new {}).run Sample.superseding).hub.store.Closed ⟨0⟩ ∧
      ((Stage.new {}).run Sample.superseding).hub.Settled ⟨10⟩ ∧
      ∀ n e, ((Stage.new {}).run Sample.superseding).hub.store.Binds n e →
        ¬((Stage.new {}).run Sample.superseding).hub.store.Closed e := by
  obtain ⟨_, hclosed, _, hnames⟩ := coherence {} Sample.superseding
  have hsettled : ((Stage.new {}).run Sample.superseding).hub.Settled ⟨10⟩ :=
    Hub.settled_of_sessions (by decide)
  refine ⟨hclosed Sample.alice ⟨0⟩ (by decide) (by decide), hsettled, ?_⟩
  exact (hnames ⟨10⟩ hsettled).1

end BroadcastChat
