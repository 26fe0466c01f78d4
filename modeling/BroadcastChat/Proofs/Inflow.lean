/-
# Who reads what clients send

What a client sent stays on its session's stream until the session itself reads
it. A session reads only when it looks on a hub that runs and its endpoint is
open (`Moment.reader_of_receive`), and each session has a stream of its own
(`Stage.Streams`). So in a run in which nobody reads a stream, what is on it
only grows at its end (`Stage.arrivals_run`).

Key definitions: `Stage.Streams`, `Moment.Reads`.
Key theorems: `exists_split_of_mem`, `Program.inbound_run`,
`Moment.reader_of_receive`, `Stage.streams_run`, `Stage.arrivals_run`.
-/
import Mathlib.Data.List.Infix
import BroadcastChat.Proofs.Deeds
import BroadcastChat.Proofs.Moments

namespace BroadcastChat

/-! ### Moments of a run -/

namespace Stage

variable {stage : Stage}

theorem run_append (stage : Stage) (moves more : List (Timestamp × Move)) :
    stage.run (moves ++ more) = (stage.run moves).run more :=
  List.foldl_append

/-- What every move keeps holds at the end of a run. -/
theorem invariant_run {motive : Stage → Prop}
    (hstep : ∀ stage time move, motive stage → motive (stage.step time move))
    (moves : List (Timestamp × Move)) (h : motive stage) : motive (stage.run moves) := by
  induction moves generalizing stage with
  | nil => exact h
  | cons move rest ih => exact ih (hstep stage move.1 move.2 h)

end Stage

theorem exists_split_of_mem {moment : Moment} {moves : List (Timestamp × Move)} {stage : Stage}
    (h : moment ∈ history moves stage) :
    ∃ before rest, moves = before ++ (moment.time, moment.move) :: rest ∧
      moment.stage = stage.run before := by
  induction moves generalizing stage with
  | nil => cases h
  | cons move moves ih =>
    rcases List.mem_cons.1 h with rfl | h
    · exact ⟨[], moves, rfl, rfl⟩
    · obtain ⟨before, rest, rfl, hstage⟩ := ih h
      exact ⟨move :: before, rest, rfl, hstage⟩

/-! ### One stream in a run -/

namespace Store

variable {store : Store} {i j : InboundId}

theorem inbound_updateInbound_of_ne (f : Inbound → Inbound) (h : j ≠ i) :
    (store.updateInbound i f).inbound j = store.inbound j := by
  have : i.index ≠ j.index := fun he => h (by cases i; cases j; simp_all)
  simp [inbound, updateInbound, Array.getElem?_modify, this]

theorem inbound_updateInbound_self (f : Inbound → Inbound) (h : i.index < store.inbounds.size) :
    (store.updateInbound i f).inbound i = f (store.inbound i) := by
  simp [inbound, updateInbound, h, Array.getElem_modify]

theorem lt_of_isOpen (h : (store.inbound i).isOpen = true) : i.index < store.inbounds.size := by
  by_contra hout
  have hspent : store.inbound i = .spent := by
    rw [inbound, Array.getElem?_eq_none (Nat.le_of_not_lt hout)]
    rfl
  rw [hspent] at h
  cases h

theorem size_updateInbound (f : Inbound → Inbound) :
    (store.updateInbound i f).inbounds.size = store.inbounds.size :=
  Array.size_modify

theorem arrivals_updateInbound {f : Inbound → Inbound}
    (hf : ∀ inbound, inbound.arrivals <+: (f inbound).arrivals) (j : InboundId) :
    (store.inbound j).arrivals <+: ((store.updateInbound i f).inbound j).arrivals := by
  by_cases h : j = i
  · subst h
    unfold inbound updateInbound
    rw [Array.getElem?_modify, if_pos rfl]
    cases store.inbounds[j.index]? with
    | none => exact List.prefix_refl _
    | some inbound => exact hf inbound
  · rw [inbound_updateInbound_of_ne f h]

theorem arrivals_newInbound (store : Store) (j : InboundId) :
    (store.newInbound.2.inbound j).arrivals = (store.inbound j).arrivals := by
  unfold newInbound inbound
  rw [Array.getElem?_push]
  by_cases h : j.index = store.inbounds.size
  · rw [if_pos h, Array.getElem?_eq_none (Nat.le_of_eq h.symm)]
    rfl
  · rw [if_neg h]

end Store

theorem Action.inbounds_perform {time : Timestamp} {store : Store} {action : Action}
    (h : ∀ i, action ≠ .receive i) : (action.perform time store).2.inbounds = store.inbounds := by
  cases action with
  | receive i => exact absurd rfl (h i)
  | deliver e d =>
    rcases perform_deliver time store e d with hsame | ⟨after, _, htaken⟩
    · rw [hsame]
    · rw [htaken]
      rfl
  | _ => rfl

theorem Action.inbound_perform {time : Timestamp} {store : Store} {action : Action} {i : InboundId}
    (h : action ≠ .receive i) :
    (action.perform time store).2.inbound i = store.inbound i := by
  by_cases hother : ∃ j, action = .receive j
  · obtain ⟨j, rfl⟩ := hother
    exact Store.inbound_updateInbound_of_ne _ fun heq => h (heq ▸ rfl)
  · have hsame : (action.perform time store).2.inbounds = store.inbounds :=
      inbounds_perform fun j hj => hother ⟨j, hj⟩
    unfold Store.inbound
    rw [hsame]

theorem Action.size_inbounds_perform {time : Timestamp} {store : Store} {action : Action} :
    (action.perform time store).2.inbounds.size = store.inbounds.size := by
  by_cases hreads : ∃ j, action = .receive j
  · obtain ⟨j, rfl⟩ := hreads
    exact Store.size_updateInbound _
  · rw [inbounds_perform fun j hj => hreads ⟨j, hj⟩]

namespace Program

variable {α : Type} {p : Program α} {time : Timestamp} {store : Store}

theorem inbound_run {i : InboundId}
    (h : ∀ event ∈ p.trace time store, event.action ≠ .receive i) :
    (p.run time store).2.inbound i = store.inbound i := by
  induction p generalizing store with
  | done value => rfl
  | step action next ih =>
    have hnow : action ≠ .receive i := h _ List.mem_cons_self
    rw [run_step, ih _ fun event hm => h event (List.mem_cons_of_mem _ hm)]
    exact Action.inbound_perform hnow

theorem size_inbounds_run : (p.run time store).2.inbounds.size = store.inbounds.size := by
  induction p generalizing store with
  | done value => rfl
  | step action next ih => exact (ih _).trans Action.size_inbounds_perform

end Program

theorem Hub.size_inbounds_perform {α : Type} (time : Timestamp) (p : Program α) (hub : Hub) :
    (hub.perform time p).2.store.inbounds.size = hub.store.inbounds.size :=
  Program.size_inbounds_run

/-! ### Who reads -/

namespace Session

open Program

theorem only_handle_not_receive (policy : GreetingPolicy) (session : Session) (event : Event) :
    (session.handle policy event).Only fun action => ∀ i, action ≠ .receive i := by
  have hall : (session.handle policy event).Within
      [.register, .deliver, .remove, .close, .now, .other] := by
    refine Within.bind (within_onEvent policy session event) fun state => ?_
    exact (within_wrapUp session state).mono (by decide)
  refine hall.only fun action hm i heq => ?_
  subst heq
  simp at hm

end Session

namespace Moment

variable {moment : Moment} {i : InboundId}

/-- Whether the stream is read in the moment. -/
def Reads (i : InboundId) (moment : Moment) : Prop :=
  ∃ event ∈ moment.trace, event.action = .receive i

/-- **Only a session reads, from its own stream, on a hub that runs and with an open endpoint.** -/
theorem reader_of_receive (h : moment.Reads i) :
    ∃ id session, moment.move = .turn id ∧ moment.stage.hub.session? id = some session ∧
      session.inbound = i ∧ moment.stage.hub.store.stopped = false ∧
      ¬moment.stage.hub.store.Closed session.endpoint := by
  obtain ⟨event, hm, hevent⟩ := h
  obtain ⟨stage, time, move⟩ := moment
  have hnone : ∀ {log : List Event}, OfKinds [.create, .register, .deliver, .remove, .drain,
      .close, .drop, .stop, .now, .other] log → event ∈ log → False := by
    intro log hkinds hmem
    have hkind := hkinds event hmem
    rw [hevent] at hkind
    simp at hkind
  cases move with
  | turn id =>
    cases hheard : stage.hub.heard? time id with
    | none =>
      simp only [trace, Stage.trace, Hub.turn_of_not_heard? hheard] at hm
      cases hm
    | some found =>
      obtain ⟨session, hsession, hover, hnext⟩ := Hub.session_of_heard? hheard
      have hturn := Hub.turn_of_heard? hsession hover hnext
      rw [(isRun_turn hsession hturn).trace_eq, Session.trace_turn_of_event hnext,
        List.mem_append] at hm
      have hlook := hm.resolve_right fun hmem =>
        (Session.only_handle_not_receive _ session found).of_mem_trace hmem i hevent
      by_cases hs : stage.hub.store.stopped = true
      · rw [(Session.nextEvent_stopped time hs).2, List.mem_singleton] at hlook
        subst hlook
        cases hevent
      · have hrunning : stage.hub.store.stopped = false := by simpa using hs
        by_cases hc : stage.hub.store.Closed session.endpoint
        · rw [(Session.nextEvent_closed time hrunning hc).2] at hlook
          simp only [List.mem_cons, List.not_mem_nil, or_false] at hlook
          rcases hlook with rfl | rfl <;> cases hevent
        · have hown := session.only_nextEvent.of_mem_trace hlook
          rw [hevent] at hown
          rcases hown with hown | hown | hown <;> cases hown
          exact ⟨id, session, rfl, hsession, rfl, hrunning, hc⟩
  | submit message =>
    exact (hnone ((Program.within_submit message).ofKinds.mono (by decide)) hm).elim
  | openListener name =>
    exact (hnone ((Program.within_openListener _ name).ofKinds.mono (by decide)) hm).elim
  | letGo listener =>
    simp only [trace, Stage.trace] at hm
    split at hm
    · exact (hnone ((Program.within_letGo listener).ofKinds.mono (by decide)) hm).elim
    · cases hm
  | openSession => exact (hnone ((Session.within_start _ _).ofKinds.mono (by decide)) hm).elim
  | dropOutbound id =>
    simp only [trace, Stage.trace] at hm
    split at hm
    · cases hm
    · cases List.mem_singleton.1 hm
      cases hevent
  | shutDown => exact (hnone (Program.within_shutDown.ofKinds.mono (by decide)) hm).elim
  | arrive id arrival => cases hm
  | endInput id => cases hm
  | read id => cases hm

theorem arrivals_of_run {α : Type} {p : Program α} {before : Store} (hrun : moment.IsRun p before)
    (h : ¬moment.Reads i) :
    moment.after.hub.store.inbound i = before.inbound i := by
  rw [hrun.store_eq]
  refine Program.inbound_run fun event hm heq => h ⟨event, ?_, heq⟩
  rw [hrun.trace_eq]
  exact hm

theorem arrivals_after (h : ¬moment.Reads i) :
    (moment.stage.hub.store.inbound i).arrivals <+:
      (moment.after.hub.store.inbound i).arrivals := by
  have hidle : ∀ {α : Type} {p : Program α} {before : Store}, moment.IsRun p before →
      (before.inbound i).arrivals = (moment.stage.hub.store.inbound i).arrivals →
      (moment.stage.hub.store.inbound i).arrivals <+:
        (moment.after.hub.store.inbound i).arrivals := by
    intro α p before hrun hbefore
    rw [arrivals_of_run hrun h, hbefore]
  obtain ⟨stage, time, move⟩ := moment
  cases move with
  | submit message => exact hidle (isRun_submit stage time message) rfl
  | openListener name => exact hidle (isRun_openListener stage time name) rfl
  | letGo listener =>
    by_cases hl : listener ∈ stage.listeners
    · exact hidle (isRun_letGo time hl) rfl
    · simp only [after, Stage.step, if_neg hl]
      exact List.prefix_refl _
  | openSession =>
    exact hidle (isRun_openSession stage time) (stage.hub.store.arrivals_newInbound i)
  | arrive id arrival =>
    change _ <+: ((stage.hub.send id arrival).2.store.inbound i).arrivals
    unfold Hub.send
    split
    · exact List.prefix_refl _
    · split
      · split
        · exact List.prefix_refl _
        · refine Store.arrivals_updateInbound (fun inbound => ?_) i
          exact List.prefix_append _ _
      · exact List.prefix_refl _
  | endInput id =>
    change _ <+: ((stage.hub.endInput id).2.store.inbound i).arrivals
    unfold Hub.endInput
    split
    · exact List.prefix_refl _
    · refine Store.arrivals_updateInbound (fun inbound => ?_) i
      exact List.prefix_refl inbound.arrivals
  | turn id =>
    cases hturn : stage.hub.turn time id with
    | none =>
      simp only [after, Stage.step, hturn, Option.getD_none]
      exact List.prefix_refl _
    | some hub =>
      obtain ⟨session, _, hsession, _⟩ := Stage.turn_eq_some hturn
      exact hidle (isRun_turn hsession hturn) rfl
  | read id => exact hidle (isRun_read stage time id) rfl
  | dropOutbound id =>
    cases hsession : stage.hub.session? id with
    | none =>
      simp only [after, Stage.step, hsession]
      exact List.prefix_refl _
    | some session => exact hidle (isRun_dropOutbound time hsession) rfl
  | shutDown => exact hidle (isRun_of_eq (p := Program.shutDown) (fun _ => rfl) rfl rfl) rfl

end Moment

namespace Stage

variable {stage : Stage}

/-- In a run in which nobody reads a stream, what is on it only grows at its end. -/
theorem arrivals_run {i : InboundId} (moves : List (Timestamp × Move))
    (h : ∀ moment ∈ history moves stage, ¬moment.Reads i) :
    (stage.hub.store.inbound i).arrivals <+:
      ((stage.run moves).hub.store.inbound i).arrivals := by
  induction moves generalizing stage with
  | nil => exact List.prefix_refl _
  | cons move rest ih =>
    have hnow : ¬Moment.Reads i ⟨stage, move.1, move.2⟩ := h _ List.mem_cons_self
    exact (Moment.arrivals_after hnow).trans
      (ih fun moment hm => h moment (List.mem_cons_of_mem _ hm))

/-! ### Sessions in a run -/

/-- A session keeps its endpoint and its stream, and where it stands changes only in its turns. -/
theorem session_step {id : SessionId} {session : Session}
    (h : stage.hub.session? id = some session) (time : Timestamp) (move : Move) :
    ∃ state, (stage.step time move).hub.session? id = some { session with state } ∧
      (move ≠ .turn id → state = session.state) := by
  have hsame : ∀ {hub : Hub}, hub.sessions = stage.hub.sessions →
      ∃ state, hub.session? id = some { session with state } ∧
        (move ≠ .turn id → state = session.state) := by
    intro hub hsessions
    refine ⟨session.state, ?_, fun _ => rfl⟩
    rw [Hub.session?, hsessions]
    exact h
  cases move with
  | submit message => exact hsame rfl
  | openListener name => exact hsame rfl
  | letGo listener =>
    simp only [Stage.step]
    split <;> exact hsame rfl
  | openSession =>
    obtain ⟨hlt, hget⟩ := Array.getElem?_eq_some_iff.1 h
    refine ⟨session.state, ?_, fun _ => rfl⟩
    exact (Array.getElem?_push_lt hlt).trans (congrArg some hget)
  | arrive id arrival => exact hsame (sessions_send _ _ _)
  | endInput id => exact hsame (sessions_endInput _ _)
  | turn other =>
    cases hheard : stage.hub.heard? time other with
    | none =>
      simp only [Stage.step, Hub.turn_of_not_heard? hheard, Option.getD_none]
      exact hsame rfl
    | some event =>
      obtain ⟨turned, hturned, hover, hnext⟩ := Hub.session_of_heard? hheard
      simp only [Stage.step, Hub.turn_of_heard? hturned hover hnext, Option.getD_some]
      by_cases hid : other = id
      · subst hid
        rw [h] at hturned
        cases hturned
        exact ⟨_, Hub.session?_setIfInBounds h, fun hne => absurd rfl hne⟩
      · have hindex : other.index ≠ id.index := fun heq => hid (by cases other; cases id; simp_all)
        refine ⟨session.state, ?_, fun _ => rfl⟩
        refine Eq.trans ?_ h
        exact Array.getElem?_setIfInBounds_ne hindex
  | read endpoint => exact hsame rfl
  | dropOutbound other =>
    simp only [Stage.step]
    split <;> exact hsame rfl
  | shutDown => exact hsame rfl

/-- A session stays as it is until it takes a turn. -/
theorem session_step_of_ne {id : SessionId} {session : Session}
    (h : stage.hub.session? id = some session) (time : Timestamp) {move : Move}
    (hmove : move ≠ .turn id) : (stage.step time move).hub.session? id = some session := by
  obtain ⟨state, hafter, hstate⟩ := session_step h time move
  rw [hstate hmove] at hafter
  exact hafter

theorem session_run {id : SessionId} {session : Session}
    (h : stage.hub.session? id = some session) (moves : List (Timestamp × Move)) :
    ∃ state, (stage.run moves).hub.session? id = some { session with state } := by
  refine invariant_run (motive := fun stage =>
    ∃ state, stage.hub.session? id = some { session with state }) ?_ moves ⟨session.state, h⟩
  rintro stage time move ⟨state, hs⟩
  obtain ⟨state', hstep, _⟩ := session_step hs time move
  exact ⟨state', hstep⟩

theorem session_step_of_over {id : SessionId} {session : Session}
    (h : stage.hub.session? id = some session) (hover : session.isOver = true) (time : Timestamp)
    (move : Move) : (stage.step time move).hub.session? id = some session := by
  by_cases hmove : move = .turn id
  · subst hmove
    have hheard : stage.hub.heard? time id = none := by
      rw [Hub.heard?, h]
      exact if_pos hover
    simp only [Stage.step, Hub.turn_of_not_heard? hheard, Option.getD_none]
    exact h
  · exact session_step_of_ne h time hmove

theorem awaiting_of_new {id : SessionId} {session : Session} {time : Timestamp} {move : Move}
    (h : stage.hub.session? id = none)
    (hafter : (stage.step time move).hub.session? id = some session) :
    session.state = .awaitingHello := by
  have hsame : ∀ {hub : Hub}, hub.sessions = stage.hub.sessions →
      hub.session? id = some session → session.state = .awaitingHello := by
    intro hub hsessions hs
    rw [Hub.session?, hsessions] at hs
    rw [Hub.session?, hs] at h
    cases h
  cases move with
  | submit message => exact hsame rfl hafter
  | openListener name => exact hsame rfl hafter
  | letGo listener =>
    simp only [Stage.step] at hafter
    split at hafter <;> exact hsame rfl hafter
  | openSession =>
    have hpush : (stage.hub.sessions.push
      ((Session.start stage.hub.settings.capacity stage.hub.store.newInbound.1).run time
        stage.hub.store.newInbound.2).1)[id.index]? = some session := hafter
    rw [Array.getElem?_push] at hpush
    split at hpush
    · cases hpush
      rfl
    · rw [Hub.session?, hpush] at h
      cases h
  | arrive other arrival => exact hsame (sessions_send _ _ _) hafter
  | endInput other => exact hsame (sessions_endInput _ _) hafter
  | turn other =>
    cases hheard : stage.hub.heard? time other with
    | none =>
      simp only [Stage.step, Hub.turn_of_not_heard? hheard, Option.getD_none] at hafter
      exact hsame rfl hafter
    | some event =>
      obtain ⟨turned, hturned, hover, hnext⟩ := Hub.session_of_heard? hheard
      simp only [Stage.step, Hub.turn_of_heard? hturned hover hnext, Option.getD_some] at hafter
      have hindex : other.index ≠ id.index := by
        intro heq
        rw [Hub.session?, heq] at hturned
        rw [Hub.session?, hturned] at h
        cases h
      rw [Hub.session?, Array.getElem?_setIfInBounds_ne hindex] at hafter
      rw [Hub.session?, hafter] at h
      cases h
  | read endpoint => exact hsame rfl hafter
  | dropOutbound other =>
    simp only [Stage.step] at hafter
    split at hafter <;> exact hsame rfl hafter
  | shutDown => exact hsame rfl hafter

/-! ### Each session its own stream -/

/-- The sessions and the streams of their clients are numbered alike. -/
structure Streams (stage : Stage) : Prop where
  size_eq : stage.hub.store.inbounds.size = stage.hub.sessions.size
  index_eq : ∀ {id session}, stage.hub.session? id = some session →
    session.inbound.index = id.index

theorem streams_new (settings : HubSettings) : (new settings).Streams where
  size_eq := rfl
  index_eq h := by cases h

namespace Streams

variable (h : stage.Streams)
include h

theorem unique {id id' : SessionId} {session session' : Session}
    (hs : stage.hub.session? id = some session) (hs' : stage.hub.session? id' = some session')
    (heq : session.inbound = session'.inbound) : id = id' := by
  have hindex : id.index = id'.index := by
    rw [← h.index_eq hs, ← h.index_eq hs', heq]
  cases id
  cases id'
  cases hindex
  rfl

theorem of_same {other : Hub} {listeners : List Listener}
    (hsize : other.store.inbounds.size = stage.hub.store.inbounds.size)
    (hsessions : other.sessions = stage.hub.sessions) :
    (⟨other, listeners⟩ : Stage).Streams where
  size_eq := by
    rw [hsize, hsessions]
    exact h.size_eq
  index_eq hs := by
    refine h.index_eq ?_
    rw [Hub.session?, ← hsessions]
    exact hs

theorem step_openSession (time : Timestamp) : (stage.step time .openSession).Streams where
  size_eq := by
    have hsessions : (stage.step time .openSession).hub.sessions.size =
        stage.hub.sessions.size + 1 := Array.size_push _
    have hstreams : (stage.step time .openSession).hub.store.inbounds.size =
        stage.hub.store.inbounds.size + 1 := by
      rw [← Array.size_push Inbound.new]
      exact Hub.size_inbounds_perform time
        (Session.start stage.hub.settings.capacity stage.hub.store.newInbound.1)
        { stage.hub with store := stage.hub.store.newInbound.2 }
    rw [hsessions, hstreams, h.size_eq]
  index_eq {id session} hs := by
    have hpush : (stage.hub.sessions.push
      ((Session.start stage.hub.settings.capacity stage.hub.store.newInbound.1).run time
        stage.hub.store.newInbound.2).1)[id.index]? = some session := hs
    rw [Array.getElem?_push] at hpush
    split at hpush
    · rename_i hid
      cases hpush
      exact h.size_eq.trans hid.symm
    · exact h.index_eq hpush

theorem step_turn (time : Timestamp) (id : SessionId) :
    (stage.step time (.turn id)).Streams := by
  cases hheard : stage.hub.heard? time id with
  | none =>
    simp only [Stage.step, Hub.turn_of_not_heard? hheard, Option.getD_none]
    exact h
  | some event =>
    obtain ⟨session, hsession, hover, hnext⟩ := Hub.session_of_heard? hheard
    simp only [Stage.step, Hub.turn_of_heard? hsession hover hnext, Option.getD_some]
    refine ⟨?_, ?_⟩
    · rw [Array.size_setIfInBounds, Program.size_inbounds_run, Program.size_inbounds_run]
      exact h.size_eq
    · intro other turned hturned
      rw [Hub.session?, Array.getElem?_setIfInBounds] at hturned
      split at hturned
      · rename_i hid
        split at hturned
        · cases hturned
          exact (h.index_eq hsession).trans hid
        · cases hturned
      · exact h.index_eq hturned

/-- **Each session keeps a stream of its own** in every move. -/
theorem step (time : Timestamp) (move : Move) : (stage.step time move).Streams := by
  cases move with
  | submit message => exact h.of_same (Hub.size_inbounds_perform _ _ _) rfl
  | openListener name => exact h.of_same (Hub.size_inbounds_perform _ _ _) rfl
  | letGo listener =>
    simp only [Stage.step]
    split
    · exact h.of_same (Hub.size_inbounds_perform _ _ _) rfl
    · exact h
  | openSession => exact h.step_openSession time
  | arrive id arrival =>
    refine h.of_same ?_ (sessions_send _ _ _)
    unfold Hub.send
    split
    · rfl
    · split
      · split
        · rfl
        · exact Store.size_updateInbound _
      · rfl
  | endInput id =>
    refine h.of_same ?_ (sessions_endInput _ _)
    unfold Hub.endInput
    split
    · rfl
    · exact Store.size_updateInbound _
  | turn id => exact h.step_turn time id
  | read id => exact h.of_same rfl rfl
  | dropOutbound id =>
    simp only [Stage.step]
    split
    · exact h
    · rename_i session hsession
      refine h.of_same ?_ rfl
      exact Hub.size_inbounds_perform time (Program.drop session.endpoint) stage.hub
  | shutDown => exact h.of_same (Hub.size_inbounds_perform _ _ _) rfl

end Streams

theorem streams_run (moves : List (Timestamp × Move)) (h : stage.Streams) :
    (stage.run moves).Streams :=
  invariant_run (fun _ time move hs => hs.step time move) moves h

end Stage

end BroadcastChat
