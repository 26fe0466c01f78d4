/-
# What a run does to one endpoint

Whatever a program does, one endpoint fares in a run as the trace says: its
queue grows by what it accepts, a closed one stays closed and accepts nothing,
and a stream that is dropped is closed. Reading is no part of a program: it
takes the oldest delivery that is unread, and changes nothing else.

Key theorems: `Endpoint.fst_read`, `Endpoint.unread_read`, `Program.unread_run`,
`Program.closed_run`, `Program.accepted_of_closed`, `Program.closed_of_mem_trace`,
`Program.dropped_run`.
-/
import BroadcastChat.Proofs.Trace

namespace BroadcastChat

/-! ### The queue of an endpoint -/

namespace Endpoint

theorem unread_of_deliver {endpoint after : Endpoint} {delivery : Delivery}
    (h : endpoint.deliver delivery = .ok after) :
    after.unread = endpoint.unread ++ [delivery] := by
  obtain ⟨_, rfl⟩ := eq_of_deliver h
  rfl

theorem deliver_of_isClosed {endpoint : Endpoint} (h : endpoint.isClosed = true)
    (delivery : Delivery) : endpoint.deliver delivery = .error .closed :=
  if_pos h

theorem unread_beginWait (endpoint : Endpoint) : endpoint.beginWait.unread = endpoint.unread := by
  unfold beginWait
  split <;> rfl

theorem dropped_of_deliver {endpoint after : Endpoint} {delivery : Delivery}
    (h : endpoint.deliver delivery = .ok after) : after.dropped = endpoint.dropped := by
  obtain ⟨_, rfl⟩ := eq_of_deliver h
  rfl

theorem dropped_beginWait (endpoint : Endpoint) :
    endpoint.beginWait.dropped = endpoint.dropped := by
  unfold beginWait
  split <;> rfl

end Endpoint

/-! ### Reading -/

/-- The delivery that was read, if one was. -/
def Reading.delivery? : Reading → Option Delivery
  | .delivery d => some d
  | _ => none

namespace Endpoint

/-- What reading gives is decided by what is queued and how the stream stands. -/
theorem fst_read (endpoint : Endpoint) :
    endpoint.read.1 = if endpoint.dropped then .dropped
      else match endpoint.unread with
        | [] => if endpoint.isFinal then .ended else .pending
        | delivery :: _ => .delivery delivery := by
  unfold read
  split
  · rfl
  · rename_i hkept
    split
    · rename_i hnil
      rw [hnil, standing, if_neg hkept]
    · rename_i delivery rest hcons
      simp only [hcons]

theorem eq_of_read (endpoint : Endpoint) :
    ∃ rest hle, endpoint.read.2 = { endpoint with unread := rest, unread_le := hle } := by
  unfold read
  split
  · exact ⟨endpoint.unread, endpoint.unread_le, rfl⟩
  · split
    · exact ⟨endpoint.unread, endpoint.unread_le, rfl⟩
    · rename_i delivery rest hcons
      exact ⟨rest, length_tail_le (hcons ▸ endpoint.unread_le), rfl⟩

theorem shut_read (endpoint : Endpoint) : endpoint.read.2.shut = endpoint.shut := by
  obtain ⟨_, _, hread⟩ := endpoint.eq_of_read
  rw [hread]

theorem dropped_read (endpoint : Endpoint) : endpoint.read.2.dropped = endpoint.dropped := by
  obtain ⟨_, _, hread⟩ := endpoint.eq_of_read
  rw [hread]

theorem waits_read (endpoint : Endpoint) : endpoint.read.2.waits = endpoint.waits := by
  obtain ⟨_, _, hread⟩ := endpoint.eq_of_read
  rw [hread]

theorem bound_read (endpoint : Endpoint) : endpoint.read.2.bound = endpoint.bound := by
  obtain ⟨_, _, hread⟩ := endpoint.eq_of_read
  rw [hread]

theorem unread_read (endpoint : Endpoint) :
    endpoint.read.1.delivery?.toList ++ endpoint.read.2.unread = endpoint.unread := by
  unfold read
  split
  · rfl
  · split
    · rename_i hnil
      have hnone : endpoint.standing.delivery? = none := by
        unfold standing
        split
        · rfl
        · split <;> rfl
      rw [hnone]
      rfl
    · rename_i delivery rest hcons
      exact hcons.symm

end Endpoint

namespace Action

variable {time : Timestamp} {store : Store} {action : Action}

theorem unread_perform (e : EndpointId) :
    ((action.perform time store).2.endpoint e).unread =
      (store.endpoint e).unread ++ accepted [⟨action, (action.perform time store).1⟩] e := by
  cases action with
  | deliver x d =>
    cases hd : (store.endpoint x).deliver d with
    | ok after =>
      rw [perform_deliver_ok hd]
      by_cases he : e = x
      · subst he
        rw [accepted_singleton_ok, ← Endpoint.unread_of_deliver hd, Store.endpoint_update]
        by_cases hh : store.Has e
        · rw [if_pos ⟨rfl, hh⟩]
        · -- an endpoint that was never made takes nothing
          rw [Store.endpoint_of_not_has hh, Endpoint.deliver_of_isClosed rfl] at hd
          cases hd
      · rw [accepted_singleton_of_ne _ he, List.append_nil, Store.endpoint_update_of_ne _ he]
    | error r =>
      rw [perform_deliver_error hd]
      exact (List.append_nil _).symm
  | create c =>
    rw [accepted_singleton_of_quiet (by simp), List.append_nil]
    by_cases he : e = (store.newEndpoint c).1
    · subst he
      have hgone := Store.endpoint_of_not_has (store.not_has_newEndpoint c)
      rw [hgone]
      exact (congrArg Endpoint.unread (store.endpoint_newEndpoint_self c)).trans rfl
    · exact congrArg Endpoint.unread (Store.endpoint_newEndpoint_of_ne store c he)
  | close x =>
    rw [accepted_singleton_of_quiet (by simp), List.append_nil]
    exact Store.update_congr Endpoint.unread rfl e
  | drop x =>
    rw [accepted_singleton_of_quiet (by simp), List.append_nil]
    exact Store.update_congr Endpoint.unread rfl e
  | beginWait x =>
    rw [accepted_singleton_of_quiet (by simp), List.append_nil]
    exact Store.update_congr Endpoint.unread (Endpoint.unread_beginWait _) e
  | endWait x =>
    rw [accepted_singleton_of_quiet (by simp), List.append_nil]
    exact Store.update_congr Endpoint.unread rfl e
  | _ =>
    rw [accepted_singleton_of_quiet (by simp), List.append_nil]
    rfl

theorem accepted_of_closed {e : EndpointId} (hc : store.Closed e) :
    accepted [⟨action, (action.perform time store).1⟩] e = [] := by
  cases action with
  | deliver x d =>
    by_cases he : e = x
    · subst he
      have hd := Endpoint.deliver_of_isClosed hc d
      rw [perform_deliver_error hd]
      rfl
    · exact accepted_singleton_of_ne _ he
  | _ => exact accepted_singleton_of_quiet (by simp) e

theorem dropped_perform {e : EndpointId} (hh : store.Has e) (ha : action ≠ .drop e) :
    ((action.perform time store).2.endpoint e).dropped = (store.endpoint e).dropped := by
  cases action with
  | deliver x d =>
    rcases perform_deliver time store x d with hsame | ⟨after, hd, htaken⟩
    · rw [hsame]
    · rw [htaken]
      exact Store.update_congr Endpoint.dropped (Endpoint.dropped_of_deliver hd) e
  | create c =>
    have hne : e ≠ (store.newEndpoint c).1 := fun he => store.not_has_newEndpoint c (he ▸ hh)
    exact congrArg Endpoint.dropped (Store.endpoint_newEndpoint_of_ne store c hne)
  | close x => exact Store.update_congr Endpoint.dropped rfl e
  | drop x =>
    have hne : e ≠ x := fun he => ha (he ▸ rfl)
    exact congrArg Endpoint.dropped (Store.endpoint_update_of_ne _ hne)
  | beginWait x => exact Store.update_congr Endpoint.dropped (Endpoint.dropped_beginWait _) e
  | endWait x => exact Store.update_congr Endpoint.dropped rfl e
  | _ => rfl

theorem closed_of_drop_or_close {e : EndpointId} (hh : store.Has e)
    (ha : action = .drop e ∨ action = .close e) : (action.perform time store).2.Closed e := by
  rcases ha with rfl | rfl
  · simp only [Store.Closed, perform, Store.endpoint_update_self _ hh]
    exact Endpoint.isClosed_drop _
  · simp only [Store.Closed, perform, Store.endpoint_update_self _ hh]
    exact Endpoint.isClosed_close _

end Action

/-! ### Runs -/

theorem mem_drops {log : List Event} {e : EndpointId} :
    e ∈ drops log ↔ ∃ event ∈ log, event.action = .drop e := by
  rw [drops, List.mem_filterMap]
  refine exists_congr fun event => and_congr_right fun _ => ?_
  obtain ⟨action, answer⟩ := event
  cases action <;> simp [Event.dropped?]

namespace Program

variable {α β : Type} {time : Timestamp} {store : Store} {p : Program α} {e : EndpointId}

theorem has_run (hh : store.Has e) : (p.run time store).2.Has e := by
  induction p generalizing store with
  | done value => exact hh
  | step action next ih => exact ih _ (Action.has_mono hh)

theorem closed_run (hh : store.Has e) (hc : store.Closed e) : (p.run time store).2.Closed e := by
  induction p generalizing store with
  | done value => exact hc
  | step action next ih => exact ih _ (Action.has_mono hh) (Action.closed_mono hh hc)

theorem stopped_run (hs : store.stopped = true) : (p.run time store).2.stopped = true := by
  induction p generalizing store with
  | done value => exact hs
  | step action next ih => exact ih _ (Action.stopped_mono hs)

theorem trace_step (action : Action) (next : action.Answer → Program α) :
    (step action next).trace time store = [⟨action, (action.perform time store).1⟩] ++
      (next (action.perform time store).1).trace time (action.perform time store).2 := rfl

/-- In a run the queue grows by what is accepted. -/
theorem unread_run : ((p.run time store).2.endpoint e).unread =
    (store.endpoint e).unread ++ accepted (p.trace time store) e := by
  induction p generalizing store with
  | done value => exact (List.append_nil _).symm
  | step action next ih =>
    rw [trace_step, accepted_append, ← List.append_assoc, ← Action.unread_perform, run_step]
    exact ih _

theorem accepted_of_closed (hh : store.Has e) (hc : store.Closed e) :
    accepted (p.trace time store) e = [] := by
  induction p generalizing store with
  | done value => rfl
  | step action next ih =>
    rw [trace_step, accepted_append, Action.accepted_of_closed hc, List.nil_append]
    exact ih _ (Action.has_mono hh) (Action.closed_mono hh hc)

/-- Whose stream is dropped or who is closed in a run is closed after it. -/
theorem closed_of_mem_trace {event : Event} (hh : store.Has e) (hm : event ∈ p.trace time store)
    (he : event.action = .drop e ∨ event.action = .close e) : (p.run time store).2.Closed e := by
  induction p generalizing store with
  | done value => cases hm
  | step action next ih =>
    rw [run_step]
    rcases List.mem_cons.1 hm with rfl | hm
    · exact closed_run (Action.has_mono hh) (Action.closed_of_drop_or_close hh he)
    · exact ih _ (Action.has_mono hh) hm

theorem closed_of_mem_drops (hh : store.Has e) (hm : e ∈ drops (p.trace time store)) :
    (p.run time store).2.Closed e := by
  obtain ⟨event, hmem, he⟩ := mem_drops.1 hm
  exact closed_of_mem_trace hh hmem (.inl he)

theorem dropped_run (hh : store.Has e) (hm : e ∉ drops (p.trace time store)) :
    ((p.run time store).2.endpoint e).dropped = (store.endpoint e).dropped := by
  induction p generalizing store with
  | done value => rfl
  | step action next ih =>
    rw [trace_step, drops_append, List.mem_append, not_or] at hm
    obtain ⟨hnow, hlater⟩ := hm
    rw [run_step, ih _ (Action.has_mono hh) hlater]
    refine Action.dropped_perform hh fun ha => hnow ?_
    exact mem_drops.2 ⟨_, List.mem_singleton.2 rfl, ha⟩

end Program

end BroadcastChat
