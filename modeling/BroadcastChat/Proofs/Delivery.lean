/-
# Exact delivery

What an endpoint accepts in a run is decided by the two moments between which
it listens: the one in which it is registered under a name, and the first one
after that which silences it. It accepts exactly what others speak in between,
in order and each once (`heardBy`), and what is read from its stream is what it
accepted, from the front.

The proof follows an endpoint through its three ages. Before it is registered
it accepts nothing (`accepted_of_fresh`); while it is bound and open each
moment has one of two outcomes (`Moment.fate`, `accepted_of_open`); once it is
closed it accepts nothing any more (`accepted_of_closed`).

Key definitions: `lifetime`, `heardBy`, `readFrom`.
Key theorems: `Moment.open_of_registered`, `accepted_of_closed`,
`accepted_of_open`, `accepted_of_fresh`, `readings_of_mem`,
`readFrom_append_unread`, `exact_delivery`.
-/
import BroadcastChat.Proofs.Fate

namespace BroadcastChat

/-- The moments after the endpoint is registered under the name and before one that silences it. -/
def lifetime (name : Name) (endpoint : EndpointId) (moments : List Moment) : List Moment :=
  ((moments.dropWhile fun moment => !moment.registers name endpoint).tail).takeWhile
    fun moment => !moment.silences name endpoint

/-- What others speak while the endpoint listens under the name. -/
def heardBy (name : Name) (endpoint : EndpointId) (moments : List Moment) : List Delivery :=
  ((lifetime name endpoint moments).filterMap Moment.spoken?).filter (·.sender ≠ name)

/-- What is read from the endpoint's stream. -/
def readFrom (endpoint : EndpointId) (moments : List Moment) : List Delivery :=
  moments.filterMap (Moment.read? endpoint)

variable {stage : Stage} {log : List Event} {n : Name} {e : EndpointId}

/-! ### After it is closed -/

theorem Moment.closed_after (moment : Moment) (hh : moment.stage.hub.store.Has e)
    (hc : moment.stage.hub.store.Closed e) :
    accepted moment.trace e = [] ∧ moment.after.hub.store.Has e ∧
      moment.after.hub.store.Closed e := by
  obtain ⟨α, p, before, hrun⟩ := moment.exists_run
  have hhas : before.Has e := (hrun.alike.has_iff e).2 hh
  have hclosed : before.Closed e := hrun.alike.closed_iff.2 hc
  rw [hrun.trace_eq, hrun.store_eq]
  exact ⟨Program.accepted_of_closed hhas hclosed, Program.has_run hhas,
    Program.closed_run hhas hclosed⟩

theorem accepted_of_closed (moves : List (Timestamp × Move)) (hh : stage.hub.store.Has e)
    (hc : stage.hub.store.Closed e) : accepted (logOf (history moves stage)) e = [] := by
  induction moves generalizing stage with
  | nil => rfl
  | cons move rest ih =>
    obtain ⟨haccepted, hhas, hclosed⟩ :=
      Moment.closed_after ⟨stage, move.1, move.2⟩ hh hc
    rw [history, logOf_cons, accepted_append, haccepted, List.nil_append]
    exact ih hhas hclosed

/-! ### While it is open -/

/-- An endpoint that is bound and open accepts what others speak until it is silenced. -/
theorem accepted_of_open (moves : List (Timestamp × Move)) (h : stage.Sound log)
    (hb : stage.hub.store.Binds n e) (hc : ¬stage.hub.store.Closed e) :
    accepted (logOf (history moves stage)) e =
      (((history moves stage).takeWhile fun moment => !moment.silences n e).filterMap
        Moment.spoken?).filter (·.sender ≠ n) := by
  induction moves generalizing stage log with
  | nil => rfl
  | cons move rest ih =>
    have hfate : Moment.Fate ⟨stage, move.1, move.2⟩ n e := Moment.fate h hb hc
    rw [history, logOf_cons, accepted_append, List.takeWhile_cons]
    cases hs : Moment.silences n e ⟨stage, move.1, move.2⟩ with
    | true =>
      obtain ⟨haccepted, hclosed⟩ := hfate.silenced hs
      have hhas : (stage.step move.1 move.2).hub.store.Has e := by
        obtain ⟨α, p, before, hrun⟩ := Moment.exists_run ⟨stage, move.1, move.2⟩
        have hafter := hrun.store_eq
        rw [Moment.after] at hafter
        rw [hafter]
        exact Program.has_run ((hrun.alike.has_iff e).2 (h.books.has_of_binds hb))
      rw [haccepted, accepted_of_closed rest hhas hclosed]
      rfl
    | false =>
      obtain ⟨haccepted, hbinds, hopen⟩ := hfate.spared hs
      have hsound : (stage.step move.1 move.2).Sound (log ++ stage.trace move.1 move.2) :=
        h.step move.1 move.2
      rw [haccepted, ih hsound hbinds hopen, Bool.not_false, if_pos rfl]
      cases hd : Moment.spoken? ⟨stage, move.1, move.2⟩ with
      | none =>
        rw [List.filterMap_cons_none hd]
        rfl
      | some d =>
        rw [List.filterMap_cons_some hd, ← List.singleton_append, List.filter_append]
        rfl

/-! ### Before it is registered -/

/-- Whom nobody has registered accepts nothing, not even in the moment of its registration. -/
theorem Moment.accepted_of_fresh {moment : Moment} (h : moment.stage.Sound log)
    (hfresh : ∀ n, ¬Registered log n e) : accepted moment.trace e = [] := by
  cases hd : moment.spoken? with
  | none => exact (kinds_of_silent hd).accepted_eq (by decide) e
  | some d =>
    obtain ⟨before, mid, hspeech⟩ := exists_speech h hd
    rw [hspeech.trace_eq, accepted_append, hspeech.kinds.accepted_eq (by decide), List.nil_append]
    by_cases hb : ∃ n, mid.Binds n e
    · obtain ⟨n, hb⟩ := hb
      rw [Program.accepted_broadcast hspeech.distinct hb, if_neg]
      rintro ⟨hne, _⟩
      exact hfresh n (h.books.registered_of_binds (hspeech.binds_before hb (Ne.symm hne)))
    · refine Program.accepted_broadcast_of_not_binds hspeech.distinct (fun n hbn => ?_) _
      exact hb ⟨n, hbn⟩

/-! ### The moment of its registration -/

namespace Program

variable {time : Timestamp} {store : Store}

theorem registrations_openListener (hs : store.stopped = false) {capacity : Nat} {name : Name} :
    registrations ((openListener capacity name).trace time store) =
      [(name, (store.newEndpoint capacity).1)] := by
  rw [(openListener_running time hs capacity name).2, ← List.singleton_append,
    registrations_append, registrations_append, registrations_subscribe]
  rfl

/-- On a hub that runs a new listener holds its name, and its stream is whole. -/
theorem openListener_binds (time : Timestamp) (hs : store.stopped = false) (capacity : Nat)
    (name : Name) :
    ((openListener capacity name).run time store).1 =
        ⟨name, (store.newEndpoint capacity).1, true⟩ ∧
      ((openListener capacity name).run time store).2.Binds name (store.newEndpoint capacity).1 ∧
      (((openListener capacity name).run time store).2.endpoint
        (store.newEndpoint capacity).1).dropped = false := by
  rw [(openListener_running time hs capacity name).1, run_subscribe]
  refine ⟨rfl, binds_takeOver.2 (by rw [if_pos rfl]), ?_⟩
  rw [dropped_run (Store.has_newEndpoint.2 (.inr rfl)), Store.endpoint_newEndpoint_self]
  · rfl
  · rw [(within_takeOver _ _).ofKinds.drops_eq (by decide)]
    exact List.not_mem_nil

end Program

namespace Moment

theorem binds_of_opened {stage : Stage} {time : Timestamp} {name : Name}
    (hreg : Registered (trace ⟨stage, time, .openListener name⟩) n e) :
    (after ⟨stage, time, .openListener name⟩).hub.store.Binds n e ∧
      ((after ⟨stage, time, .openListener name⟩).hub.store.endpoint e).dropped = false := by
  have hrun := isRun_openListener stage time name
  rw [hrun.trace_eq] at hreg
  rw [hrun.store_eq]
  cases hs : stage.hub.store.stopped with
  | true =>
    rw [(Program.openListener_stopped time hs _ name).2, ← List.singleton_append,
      registered_append] at hreg
    rcases hreg with hreg | hreg
    · cases hreg
    · have hwithin := Program.within_closedListener name
      exact absurd hreg (hwithin.ofKinds.not_registered (by decide) n e)
  | false =>
    rw [Registered, Program.registrations_openListener hs] at hreg
    cases List.mem_singleton.1 hreg
    obtain ⟨_, hbinds, hdropped⟩ :=
      Program.openListener_binds time hs stage.hub.settings.capacity n
    exact ⟨hbinds, hdropped⟩

theorem binds_of_greeted {stage : Stage} {time : Timestamp} {id : SessionId}
    (h : stage.Sound log) (hreg : Registered (trace ⟨stage, time, .turn id⟩) n e) :
    (after ⟨stage, time, .turn id⟩).hub.store.Binds n e ∧
      ((after ⟨stage, time, .turn id⟩).hub.store.endpoint e).dropped = false := by
  cases hheard : stage.hub.heard? time id with
  | none =>
    simp only [trace, Stage.trace, Hub.turn_of_not_heard? hheard] at hreg
    cases hreg
  | some event =>
    obtain ⟨session, hsession, hover, hnext⟩ := Hub.session_of_heard? hheard
    obtain ⟨htrace, hstore, _⟩ := turn_of_event hsession hover hnext
    rw [htrace, registered_append] at hreg
    have hhandle := hreg.resolve_left
      (session.within_nextEvent.ofKinds.not_registered (by decide) n e)
    obtain ⟨hello, rfl, hs, rfl, rfl⟩ := Session.registered_handle hhandle
    refine ⟨?_, ?_⟩
    · rw [hstore]
      cases hpolicy : stage.hub.settings.policy with
      | broadcast =>
        obtain ⟨hdistinct, _⟩ := kept_of_hello h hsession hs hnext
        rw [Session.run_handle_hello hs, Program.binds_broadcast hdistinct]
        exact ⟨Program.binds_takeOver.2 (by rw [if_pos rfl]), fun hne => absurd rfl hne⟩
      | registerOnly =>
        rw [Session.run_handle_quiet_hello hs]
        exact Program.binds_takeOver.2 (by rw [if_pos rfl])
    · have hopen : ¬stage.hub.store.Closed session.endpoint :=
        (Session.open_of_not_ending fun ending => by rw [hnext]; simp).2
      have hrun := isRun_turn hsession (Hub.turn_of_heard? hsession hover hnext)
      rw [hrun.store_eq, Program.dropped_run (Store.has_of_open hopen)]
      · exact Store.dropped_of_open hopen
      · rw [(session.within_turn _).ofKinds.drops_eq (by decide)]
        exact List.not_mem_nil

/-- **In the moment of its registration an endpoint is bound and open.** -/
theorem open_of_registered {moment : Moment} (h : moment.stage.Sound log)
    (hreg : Registered moment.trace n e) :
    moment.after.hub.store.Binds n e ∧ ¬moment.after.hub.store.Closed e := by
  have hafter : moment.after.Sound (log ++ moment.trace) := h.step moment.time moment.move
  have hbound : moment.after.hub.store.Binds n e ∧
      (moment.after.hub.store.endpoint e).dropped = false := by
    obtain ⟨stage, time, move⟩ := moment
    have hnone : ∀ {log : List Event}, OfKinds [.create, .deliver, .remove, .drain, .close, .drop,
        .stop, .receive, .now, .other] log → ¬Registered log n e :=
      fun hkinds => hkinds.not_registered (by decide) n e
    cases move with
    | openListener name => exact binds_of_opened hreg
    | turn id => exact binds_of_greeted h hreg
    | submit message =>
      exact absurd hreg (hnone ((Program.within_submit message).ofKinds.mono (by decide)))
    | letGo listener =>
      simp only [trace, Stage.trace] at hreg
      split at hreg
      · exact absurd hreg (hnone ((Program.within_letGo listener).ofKinds.mono (by decide)))
      · cases hreg
    | openSession =>
      exact absurd hreg (hnone ((Session.within_start _ _).ofKinds.mono (by decide)))
    | dropOutbound id =>
      simp only [trace, Stage.trace] at hreg
      split at hreg <;> cases hreg
    | shutDown =>
      exact absurd hreg (hnone (Program.within_shutDown.ofKinds.mono (by decide)))
    | arrive id arrival => cases hreg
    | endInput id => cases hreg
    | read id => cases hreg
  exact ⟨hbound.1, hafter.books.open_of_binds hbound.1 hbound.2⟩

end Moment

/-! ### A whole run -/

/-- Whoever is registered in the course of a run accepts from then on what others speak. -/
theorem accepted_of_fresh (moves : List (Timestamp × Move)) (h : stage.Sound log)
    (hfresh : ∀ n, ¬Registered log n e) (hreg : Registered (logOf (history moves stage)) n e) :
    accepted (logOf (history moves stage)) e = heardBy n e (history moves stage) := by
  induction moves generalizing stage log with
  | nil => cases hreg
  | cons move rest ih =>
    have hsound : (stage.step move.1 move.2).Sound (log ++ stage.trace move.1 move.2) :=
      h.step move.1 move.2
    have hnow : accepted (Moment.trace ⟨stage, move.1, move.2⟩) e = [] :=
      Moment.accepted_of_fresh h hfresh
    rw [history, logOf_cons, accepted_append, hnow, List.nil_append, heardBy, lifetime,
      List.dropWhile_cons]
    cases hs : Moment.registers n e ⟨stage, move.1, move.2⟩ with
    | true =>
      have hmoment : Registered (Moment.trace ⟨stage, move.1, move.2⟩) n e :=
        List.contains_iff_mem.1 hs
      obtain ⟨hbinds, hopen⟩ := Moment.open_of_registered h hmoment
      rw [accepted_of_open rest hsound hbinds hopen]
      rfl
    | false =>
      have hother : ¬Registered (Moment.trace ⟨stage, move.1, move.2⟩) n e := by
        intro hmoment
        rw [Moment.registers, List.contains_iff_mem.2 hmoment] at hs
        cases hs
      rw [history, logOf_cons, registered_append] at hreg
      have hlater := hreg.resolve_left hother
      rw [Bool.not_false, if_pos rfl]
      refine ih hsound (fun n' hr => ?_) hlater
      rcases registered_append.1 hr with hr | hr
      · exact hfresh n' hr
      · -- nobody is registered under two names
        have hbooks := (hsound.run rest).books
        have hname : n' = n := hbooks.registered_unique
          (registered_append.2 (.inl (registered_append.2 (.inr hr))))
          (registered_append.2 (.inr hlater))
        rw [hname] at hr
        exact hother hr

/-- Whoever speaks in the course of a run looks at the clock once, and that is the stamp. -/
theorem readings_of_mem {moment : Moment} {d : Delivery} (moves : List (Timestamp × Move))
    (h : stage.Sound log) (hm : moment ∈ history moves stage) (hd : moment.spoken? = some d) :
    readings moment.trace = [d.receivedAt] := by
  induction moves generalizing stage log with
  | nil => cases hm
  | cons move rest ih =>
    rcases List.mem_cons.1 hm with rfl | hm
    · exact Moment.readings_of_spoken h hd
    · exact ih (h.step move.1 move.2) hm

/-- What is read and what is still unread is what was unread before and what is accepted. -/
theorem readFrom_append_unread (moves : List (Timestamp × Move)) (stage : Stage)
    (e : EndpointId) :
    readFrom e (history moves stage) ++ ((stage.run moves).hub.store.endpoint e).unread =
      (stage.hub.store.endpoint e).unread ++ accepted (logOf (history moves stage)) e := by
  induction moves generalizing stage with
  | nil => exact (List.append_nil _).symm
  | cons move rest ih =>
    obtain ⟨α, p, before, hrun⟩ := Moment.exists_run ⟨stage, move.1, move.2⟩
    have hafter : ((stage.step move.1 move.2).hub.store.endpoint e).unread =
        (before.endpoint e).unread ++ accepted (Moment.trace ⟨stage, move.1, move.2⟩) e := by
      rw [hrun.trace_eq, ← Program.unread_run]
      exact congrArg (fun store : Store => (store.endpoint e).unread) hrun.store_eq
    have hread : readFrom e (history (move :: rest) stage) =
        (Moment.read? e ⟨stage, move.1, move.2⟩).toList ++
          readFrom e (history rest (stage.step move.1 move.2)) := by
      rw [history, readFrom]
      cases hr : Moment.read? e ⟨stage, move.1, move.2⟩ with
      | none => rw [List.filterMap_cons_none hr]; rfl
      | some d => rw [List.filterMap_cons_some hr]; rfl
    have hend : stage.run (move :: rest) = (stage.step move.1 move.2).run rest := rfl
    calc readFrom e (history (move :: rest) stage) ++
          ((stage.run (move :: rest)).hub.store.endpoint e).unread
        = (Moment.read? e ⟨stage, move.1, move.2⟩).toList ++
            (((stage.step move.1 move.2).hub.store.endpoint e).unread ++
              accepted (logOf (history rest (stage.step move.1 move.2))) e) := by
          rw [hread, hend, List.append_assoc, ih]
      _ = (Moment.read? e ⟨stage, move.1, move.2⟩).toList ++ (before.endpoint e).unread ++
            accepted (logOf (history (move :: rest) stage)) e := by
          rw [hafter, history, logOf_cons, accepted_append]
          simp only [List.append_assoc]
      _ = (stage.hub.store.endpoint e).unread ++
            accepted (logOf (history (move :: rest) stage)) e := by
          rw [hrun.unread e]

/-- **Exact delivery.** In every run of a hub, an endpoint that is registered under a name accepts
exactly what others speak after its registration and before the first moment that silences it, in
order and each once. What they speak is stamped by the only look at the clock in its moment, and
what is read from the endpoint's stream, followed by what is unread, is what it accepted. -/
theorem exact_delivery (settings : HubSettings) (moves : List (Timestamp × Move)) {n : Name}
    {e : EndpointId} (h : Registered (logOf (history moves (.new settings))) n e) :
    accepted (logOf (history moves (.new settings))) e =
        heardBy n e (history moves (.new settings)) ∧
      (∀ moment ∈ history moves (.new settings), ∀ d, moment.spoken? = some d →
        readings moment.trace = [d.receivedAt]) ∧
      readFrom e (history moves (.new settings)) ++
          (((Stage.new settings).run moves).hub.store.endpoint e).unread =
        accepted (logOf (history moves (.new settings))) e := by
  have hsound : (Stage.new settings).Sound [] := Stage.sound_new settings
  refine ⟨accepted_of_fresh moves hsound (fun n hr => by cases hr) h, ?_, ?_⟩
  · exact fun moment hm d hd => readings_of_mem moves hsound hm hd
  · exact readFrom_append_unread moves (.new settings) e

namespace Sample

/-- Alice listens, Bob greets and speaks under a wrong name, Alice reads once and is superseded,
Bob speaks again. -/
def superseding : List (Timestamp × Move) :=
  [(⟨0⟩, .openListener alice), (⟨1⟩, .openSession),
    (⟨2⟩, .arrive ⟨0⟩ (.message ⟨bob, .empty⟩)), (⟨3⟩, .turn ⟨0⟩),
    (⟨4⟩, .arrive ⟨0⟩ (.message ⟨alice, .empty⟩)), (⟨5⟩, .turn ⟨0⟩), (⟨6⟩, .read ⟨0⟩),
    (⟨7⟩, .openListener alice), (⟨8⟩, .arrive ⟨0⟩ (.message ⟨bob, .empty⟩)), (⟨9⟩, .turn ⟨0⟩)]

end Sample

/-- Alice's first listener accepts Bob's greeting and his second message, under his name, and not
his third one. -/
theorem exact_delivery_superseding :
    Registered (logOf (history Sample.superseding (.new {}))) Sample.alice ⟨0⟩ ∧
      accepted (logOf (history Sample.superseding (.new {}))) ⟨0⟩ =
        [⟨⟨Sample.bob, .empty⟩, ⟨3⟩⟩, ⟨⟨Sample.bob, .empty⟩, ⟨5⟩⟩] := by
  have hreg : Registered (logOf (history Sample.superseding (.new {}))) Sample.alice ⟨0⟩ := by
    decide
  have hheard : heardBy Sample.alice ⟨0⟩ (history Sample.superseding (.new {})) =
      [⟨⟨Sample.bob, .empty⟩, ⟨3⟩⟩, ⟨⟨Sample.bob, .empty⟩, ⟨5⟩⟩] := by
    decide
  exact ⟨hreg, (exact_delivery {} Sample.superseding hreg).1.trans hheard⟩

end BroadcastChat
