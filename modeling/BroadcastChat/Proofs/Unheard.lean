/-
# What a session never reads

A session reads its client's stream up to the first arrival that ends it, or to
the end of the stream. So what comes in for it behind that (`Move.feeds`) might as
well not come in (`heeded`): it stays on the stream, and everything else, what is
done to the hub's store and with which answers included, is as without it
(`Stage.run_heeded`). For a stage with something else on one stream
(`Stage.onStream`) takes the same steps as long as nobody reads the difference.

Key definitions: `Stage.onStream`, `Inbound.ReadsLike`, `Move.feeds`,
`Move.concludes`, `heeded`.
Key theorems: `Program.run_updateInbound`, `Session.nextEvent_onStream`,
`Stage.step_onStream`, `Stage.turn_onStream`, `Stage.run_heeded`.
-/
import BroadcastChat.Proofs.Poise

namespace BroadcastChat

/-! ### Changing one stream -/

namespace Store

variable {store : Store} {i j : InboundId}

theorem updateInbound_updateInbound (store : Store) (i : InboundId) (f g : Inbound → Inbound) :
    (store.updateInbound i f).updateInbound i g =
      store.updateInbound i fun inbound => g (f inbound) := by
  unfold updateInbound
  congr 1
  refine Array.ext (by simp) fun k hk hk' => ?_
  simp only [Array.getElem_modify]
  split <;> rfl

theorem updateInbound_comm (hne : j ≠ i) (f g : Inbound → Inbound) :
    (store.updateInbound i f).updateInbound j g = (store.updateInbound j g).updateInbound i f := by
  have hindex : i.index ≠ j.index := fun heq => hne (congrArg InboundId.mk heq.symm)
  unfold updateInbound
  congr 1
  refine Array.ext (by simp) fun k hk hk' => ?_
  simp only [Array.getElem_modify]
  by_cases hi : i.index = k
  · subst hi
    simp [Ne.symm hindex]
  · simp [hi]

theorem updateInbound_self (store : Store) (i : InboundId) :
    store.updateInbound i (fun _ => store.inbound i) = store := by
  unfold updateInbound
  congr 1
  refine Array.ext (by simp) fun k hk hk' => ?_
  rw [Array.getElem_modify]
  split
  · rename_i hi
    rw [inbound, hi, Array.getElem?_eq_getElem hk', Option.getD_some]
  · rfl

theorem newInbound_updateInbound (hlt : i.index < store.inbounds.size) (f : Inbound → Inbound) :
    (store.updateInbound i f).newInbound =
      (store.newInbound.1, store.newInbound.2.updateInbound i f) := by
  unfold newInbound updateInbound
  refine Prod.ext (congrArg InboundId.mk Array.size_modify) ?_
  refine congrArg (fun inbounds => { store with inbounds }) ?_
  refine Array.ext (by simp) fun k hk hk' => ?_
  simp only [Array.getElem_push, Array.getElem_modify, Array.size_modify]
  by_cases hi : i.index = k
  · subst hi
    simp [hlt]
  · simp [hi]

end Store

/-- An action that does not read the stream is the same whatever is on it. -/
theorem Action.perform_updateInbound {action : Action} {i : InboundId}
    (h : action ≠ .receive i) (time : Timestamp) (store : Store) (f : Inbound → Inbound) :
    action.perform time (store.updateInbound i f) =
      ((action.perform time store).1, (action.perform time store).2.updateInbound i f) := by
  cases action with
  | receive j =>
    have hne : j ≠ i := fun heq => h (congrArg Action.receive heq)
    simp only [perform, Store.inbound_updateInbound_of_ne f hne, Store.updateInbound_comm hne]
  | deliver e d =>
    have hsame : (store.updateInbound i f).endpoint e = store.endpoint e := rfl
    simp only [perform, hsame]
    cases (store.endpoint e).deliver d <;> rfl
  | _ => rfl

/-- **A program that does not read a stream is the same whatever is on it.** -/
theorem Program.run_updateInbound {α : Type} {p : Program α} {i : InboundId}
    (h : p.Only (· ≠ .receive i)) (time : Timestamp) (store : Store) (f : Inbound → Inbound) :
    p.run time (store.updateInbound i f) =
        ((p.run time store).1, (p.run time store).2.updateInbound i f) ∧
      p.trace time (store.updateInbound i f) = p.trace time store := by
  induction p generalizing store with
  | done value => exact ⟨rfl, rfl⟩
  | step action next ih =>
    have hnow := Action.perform_updateInbound h.1 time store f
    obtain ⟨hrun, htrace⟩ := ih (action.perform time store).1 (h.2 _)
      (action.perform time store).2
    refine ⟨?_, ?_⟩
    · rw [run_step, hnow]
      exact hrun
    · rw [trace, hnow]
      exact congrArg (_ :: ·) htrace

/-- A program without the kind of actions that read does not read. -/
theorem Program.Within.not_receive {α : Type} {p : Program α} {kinds : List Action.Kind}
    (h : p.Within kinds) (hkinds : .receive ∉ kinds) (i : InboundId) :
    p.Only (· ≠ .receive i) := by
  refine h.only fun action hm heq => hkinds ?_
  subst heq
  exact hm

/-! ### Another stream for a session -/

/-- The hub with something else on one stream. -/
def Hub.onStream (hub : Hub) (i : InboundId) (inbound : Inbound) : Hub :=
  { hub with store := hub.store.updateInbound i fun _ => inbound }

/-- The stage with something else on one stream. -/
def Stage.onStream (stage : Stage) (i : InboundId) (inbound : Inbound) : Stage :=
  { stage with hub := stage.hub.onStream i inbound }

/-- Whether the move is about what comes in for the session. -/
def Move.feeds (id : SessionId) : Move → Bool
  | .arrive other _ | .endInput other => other = id
  | _ => false

theorem Hub.perform_onStream {α : Type} {p : Program α} {i : InboundId}
    (h : p.Only (· ≠ .receive i)) (time : Timestamp) (hub : Hub) (inbound : Inbound) :
    (hub.onStream i inbound).perform time p =
      ((hub.perform time p).1, (hub.perform time p).2.onStream i inbound) := by
  obtain ⟨hrun, -⟩ := Program.run_updateInbound h time hub.store fun _ => inbound
  rw [perform, onStream, hrun]
  rfl

section

variable {hub : Hub} {i : InboundId} {other : SessionId}
  (hother : ∀ {turning}, hub.session? other = some turning → turning.inbound ≠ i)
include hother

theorem Hub.send_onStream (inbound : Inbound) (arrival : Arrival) :
    (hub.onStream i inbound).send other arrival =
    ((hub.send other arrival).1, (hub.send other arrival).2.onStream i inbound) := by
  have hsession : (hub.onStream i inbound).session? other = hub.session? other := rfl
  unfold send
  rw [hsession]
  cases ht : hub.session? other with
  | none => rfl
  | some turning =>
    have hsame : (hub.onStream i inbound).store.inbound turning.inbound =
        hub.store.inbound turning.inbound := Store.inbound_updateInbound_of_ne _ (hother ht)
    dsimp only
    rw [hsame]
    split
    · split
      · rfl
      · simp only [onStream, Store.updateInbound_comm (hother ht)]
    · rfl

theorem Hub.endInput_onStream (inbound : Inbound) : (hub.onStream i inbound).endInput other =
    ((hub.endInput other).1, (hub.endInput other).2.onStream i inbound) := by
  have hsession : (hub.onStream i inbound).session? other = hub.session? other := rfl
  unfold endInput
  rw [hsession]
  cases ht : hub.session? other with
  | none => rfl
  | some turning =>
    have hsame : (hub.onStream i inbound).store.inbound turning.inbound =
        hub.store.inbound turning.inbound := Store.inbound_updateInbound_of_ne _ (hother ht)
    dsimp only
    rw [hsame]
    simp only [onStream, Store.updateInbound_comm (hother ht)]

end

namespace Session

open Program

variable {session : Session} {policy : GreetingPolicy} {time : Timestamp} {store : Store}

theorem only_turn_not_receive (policy : GreetingPolicy) {i : InboundId}
    (hne : session.inbound ≠ i) :
    (session.turn policy).Only (· ≠ .receive i) := by
  refine Only.bind (session.only_nextEvent.mono fun action hlooks => ?_) fun event => ?_
  · rcases hlooks with rfl | rfl | rfl
    · exact nofun
    · exact nofun
    · exact fun heq => hne (Action.receive.inj heq)
  · cases event with
    | none => exact only_pure
    | some event =>
      refine Only.bind ((within_onEvent policy session event).not_receive (by decide) i) fun _ => ?_
      exact Only.bind ((within_wrapUp session _).not_receive (by decide) i) fun _ => only_pure

/-- After an ending a session is over, wherever it stood. -/
theorem over_handle_ending (hover : session.isOver = false) (ending : Ending) :
    (((session.handle policy (.ending ending)).run time store).1.outcome?).isSome = true := by
  unfold handle onEvent
  cases hs : session.state with
  | closed outcome =>
    rw [isOver, hs] at hover
    cases hover
  | _ => rfl

end Session

theorem Hub.turn_onStream {hub : Hub} {i : InboundId} {other : SessionId}
    (hother : ∀ {turning}, hub.session? other = some turning → turning.inbound ≠ i)
    (inbound : Inbound) (time : Timestamp) :
    (hub.onStream i inbound).turn time other =
      (hub.turn time other).map (·.onStream i inbound) := by
  have hsession : (hub.onStream i inbound).session? other = hub.session? other := rfl
  cases ht : hub.session? other with
  | none => rw [turn_of_none ht, turn_of_none (hsession.trans ht), Option.map_none]
  | some turning =>
    cases hover : turning.isOver with
    | true => rw [turn_of_over ht hover, turn_of_over (hsession.trans ht) hover, Option.map_none]
    | false =>
      obtain ⟨hrun, -⟩ := Program.run_updateInbound
        (Session.only_turn_not_receive hub.settings.policy (hother ht)) time hub.store
        fun _ => inbound
      have hrun' : (turning.turn (hub.onStream i inbound).settings.policy).run time
          (hub.onStream i inbound).store = _ := hrun
      rw [turn_of_running ht hover, turn_of_running (hsession.trans ht) hover, hrun',
        Option.map_map]
      rfl

namespace Stage

variable {stage : Stage} {id : SessionId} {session : Session} {i : InboundId} {inbound : Inbound}

theorem lt_of_session (hstreams : stage.Streams) (hsession : stage.hub.session? id = some session) :
    session.inbound.index < stage.hub.store.inbounds.size := by
  rw [hstreams.index_eq hsession, hstreams.size_eq]
  exact (Array.getElem?_eq_some_iff.1 hsession).1

theorem openSession_onStream {i : InboundId} (hlt : i.index < stage.hub.store.inbounds.size)
    (time : Timestamp) (inbound : Inbound) :
    (stage.onStream i inbound).step time .openSession =
        (stage.step time .openSession).onStream i inbound ∧
      (stage.onStream i inbound).trace time .openSession = stage.trace time .openSession := by
  have hnew := Store.newInbound_updateInbound hlt fun _ => inbound
  have honly := (Session.within_start stage.hub.settings.capacity
    stage.hub.store.newInbound.1).not_receive (by decide) i
  obtain ⟨hrun, htrace⟩ := Program.run_updateInbound honly time stage.hub.store.newInbound.2
    fun _ => inbound
  simp only [step, trace, Hub.openSession, onStream, Hub.onStream, hnew]
  exact ⟨by rw [hrun], htrace⟩

/-- **Whatever is on a session's stream, everybody else does the same.** -/
theorem step_onStream {move : Move} (hstreams : stage.Streams)
    (hsession : stage.hub.session? id = some session) (hfeeds : move.feeds id = false)
    (hturn : move ≠ .turn id) (time : Timestamp) (inbound : Inbound) :
    (stage.onStream session.inbound inbound).step time move =
        (stage.step time move).onStream session.inbound inbound ∧
      (stage.onStream session.inbound inbound).trace time move = stage.trace time move := by
  have hother : ∀ {other turning}, stage.hub.session? other = some turning → other ≠ id →
      turning.inbound ≠ session.inbound :=
    fun ht hne heq => hne (hstreams.unique ht hsession heq)
  cases move with
  | submit message =>
    have honly := (Program.within_submit message).not_receive (by decide) session.inbound
    refine ⟨?_, (Program.run_updateInbound honly time stage.hub.store _).2⟩
    have hperform := Hub.perform_onStream honly time stage.hub inbound
    exact congrArg (fun pair => (⟨pair.2, stage.listeners⟩ : Stage)) hperform
  | openListener name =>
    have honly := (Program.within_openListener stage.hub.settings.capacity name).not_receive
      (by decide) session.inbound
    refine ⟨?_, (Program.run_updateInbound honly time stage.hub.store _).2⟩
    have hperform := Hub.perform_onStream honly time stage.hub inbound
    exact congrArg (fun pair => (⟨pair.2, pair.1 :: stage.listeners⟩ : Stage)) hperform
  | letGo listener =>
    have honly := (Program.within_letGo listener).not_receive (by decide) session.inbound
    have hsame : (stage.onStream session.inbound inbound).listeners = stage.listeners := rfl
    simp only [step, trace, hsame]
    split
    · refine ⟨?_, (Program.run_updateInbound honly time stage.hub.store _).2⟩
      have hperform := Hub.perform_onStream honly time stage.hub inbound
      exact congrArg (fun pair => (⟨pair.2, stage.listeners.erase listener⟩ : Stage)) hperform
    · exact ⟨rfl, rfl⟩
  | openSession =>
    exact openSession_onStream (lt_of_session hstreams hsession) time inbound
  | arrive other arrival =>
    have hne : other ≠ id := of_decide_eq_false hfeeds
    have hsend := Hub.send_onStream (fun ht => hother ht hne) inbound arrival
    exact ⟨congrArg (fun pair => (⟨pair.2, stage.listeners⟩ : Stage)) hsend, rfl⟩
  | endInput other =>
    have hne : other ≠ id := of_decide_eq_false hfeeds
    have hend := Hub.endInput_onStream (fun ht => hother ht hne) inbound
    exact ⟨congrArg (fun pair => (⟨pair.2, stage.listeners⟩ : Stage)) hend, rfl⟩
  | turn other =>
    have hne : other ≠ id := fun heq => hturn (congrArg Move.turn heq)
    have hafter := Hub.turn_onStream (fun ht => hother ht hne) inbound time
    have hsession' : (stage.onStream session.inbound inbound).hub.session? other =
        stage.hub.session? other := rfl
    have hafter' : (stage.onStream session.inbound inbound).hub.turn time other = _ := hafter
    simp only [step, trace, hafter', hsession']
    cases hturned : stage.hub.turn time other with
    | none => exact ⟨rfl, rfl⟩
    | some after =>
      obtain ⟨turning, -, ht, -⟩ := turn_eq_some hturned
      have honly := Session.only_turn_not_receive stage.hub.settings.policy (hother ht hne)
      rw [ht]
      exact ⟨rfl, (Program.run_updateInbound honly time stage.hub.store _).2⟩
  | read endpoint => exact ⟨rfl, rfl⟩
  | dropOutbound other =>
    have hsession' : (stage.onStream session.inbound inbound).hub.session? other =
        stage.hub.session? other := rfl
    simp only [step, trace, hsession']
    cases stage.hub.session? other with
    | none => exact ⟨rfl, rfl⟩
    | some turning => exact ⟨rfl, rfl⟩
  | shutDown =>
    have honly := Program.within_shutDown.not_receive (by decide) session.inbound
    refine ⟨?_, (Program.run_updateInbound honly time stage.hub.store _).2⟩
    have hperform := Hub.perform_onStream honly time stage.hub inbound
    exact congrArg (fun pair => (⟨pair.2, stage.listeners⟩ : Stage)) hperform

end Stage

/-! ### Streams that a session reads alike -/

/-- Two streams that are the same as far as a session reads: nothing more comes on them, or the same
arrival that is no message stands behind the same arrivals. -/
inductive Inbound.ReadsLike : Inbound → Inbound → Prop
  | ended (arrivals : List Arrival) : ReadsLike ⟨arrivals, false⟩ ⟨arrivals, false⟩
  | ending (front : List Arrival) {last : Arrival} (hlast : last.complaint?.isSome = true)
    (back back' : List Arrival) (isOpen isOpen' : Bool) :
    ReadsLike ⟨front ++ last :: back, isOpen⟩ ⟨front ++ last :: back', isOpen'⟩

namespace Inbound.ReadsLike

variable {inbound other : Inbound}

/-- An arrival that is no message ends the session. -/
theorem ending_of_complaint {last : Arrival} (h : last.complaint?.isSome = true) :
    ∃ ending, Session.Event.ofArrival last = .ending ending := by
  cases last with
  | message message => cases h
  | cancelled => exact ⟨_, rfl⟩
  | failed reason => exact ⟨_, rfl⟩

/-- From both the same is read, and what is left is alike unless what was read is an ending. -/
theorem read (h : inbound.ReadsLike other) :
    other.read.1 = inbound.read.1 ∧ (inbound.read.2.ReadsLike other.read.2 ∨
      ∃ ending, Session.Event.ofNext? inbound.read.1 = some (.ending ending)) := by
  cases h with
  | ended arrivals =>
    refine ⟨rfl, ?_⟩
    cases arrivals with
    | nil => exact .inr ⟨_, rfl⟩
    | cons arrival rest => exact .inl (.ended rest)
  | ending front hlast back back' isOpen isOpen' =>
    cases front with
    | nil =>
      obtain ⟨ending, hending⟩ := ending_of_complaint hlast
      exact ⟨rfl, .inr ⟨ending, congrArg some hending⟩⟩
    | cons arrival front => exact ⟨rfl, .inl (.ending front hlast back back' isOpen isOpen')⟩

theorem push (h : inbound.ReadsLike other) (hopen : other.isOpen = true) (arrival : Arrival) :
    inbound.ReadsLike (other.push arrival) := by
  cases h with
  | ended arrivals => cases hopen
  | ending front hlast back back' isOpen isOpen' =>
    rw [Inbound.push, List.append_assoc, List.cons_append]
    exact .ending front hlast back _ isOpen _

theorem finish (h : inbound.ReadsLike other) : inbound.ReadsLike other.finish := by
  cases h with
  | ended arrivals => exact .ended arrivals
  | ending front hlast back back' isOpen isOpen' => exact .ending front hlast back back' isOpen _

end Inbound.ReadsLike

namespace Session

variable {session : Session} {time : Timestamp} {store : Store} {other : Inbound}

/-- **A session that looks finds the same on a stream that it reads alike.** -/
theorem nextEvent_onStream (hlt : session.inbound.index < store.inbounds.size)
    (h : (store.inbound session.inbound).ReadsLike other) (time : Timestamp) :
    ∃ left, session.nextEvent.run time (store.updateInbound session.inbound fun _ => other) =
        ((session.nextEvent.run time store).1,
          (session.nextEvent.run time store).2.updateInbound session.inbound fun _ => left) ∧
      session.nextEvent.trace time (store.updateInbound session.inbound fun _ => other) =
        session.nextEvent.trace time store ∧
      (((session.nextEvent.run time store).2.inbound session.inbound).ReadsLike left ∨
        ∃ ending, (session.nextEvent.run time store).1 = some (.ending ending)) := by
  by_cases hs : store.stopped = true
  · have hs' : (store.updateInbound session.inbound fun _ => other).stopped = true := hs
    obtain ⟨hrun, htrace⟩ := session.nextEvent_stopped time hs
    obtain ⟨hrun', htrace'⟩ := session.nextEvent_stopped time hs'
    rw [hrun, hrun', htrace, htrace']
    exact ⟨other, rfl, rfl, .inl h⟩
  have hrunning : store.stopped = false := by simpa using hs
  have hrunning' : (store.updateInbound session.inbound fun _ => other).stopped = false := hrunning
  by_cases hc : store.Closed session.endpoint
  · obtain ⟨hrun, htrace⟩ := nextEvent_closed time hrunning hc
    obtain ⟨hrun', htrace'⟩ := nextEvent_closed time hrunning' hc
    rw [hrun, hrun', htrace, htrace']
    exact ⟨other, rfl, rfl, .inl h⟩
  · obtain ⟨hrun, htrace⟩ := nextEvent_open time hrunning hc
    obtain ⟨hrun', htrace'⟩ := nextEvent_open time hrunning' hc
    obtain ⟨hread, hleft⟩ := h.read
    have hother : (store.updateInbound session.inbound fun _ => other).inbound session.inbound =
        other := Store.inbound_updateInbound_self _ hlt
    rw [hrun, hrun', htrace, htrace', hother, hread]
    refine ⟨other.read.2, ?_, rfl, ?_⟩
    · rw [Store.updateInbound_updateInbound, Store.updateInbound_updateInbound]
    · rw [Store.inbound_updateInbound_self _ hlt]
      exact hleft

end Session

namespace Stage

variable {stage : Stage} {id : SessionId} {session : Session} {other : Inbound}

/-- The session is over, or reads alike from this stream. -/
def Overlooks (stage : Stage) (id : SessionId) (other : Inbound) : Prop :=
  ∃ session, stage.hub.session? id = some session ∧
    (session.isOver = true ∨ (stage.hub.store.inbound session.inbound).ReadsLike other)

theorem idle_onStream {i : InboundId} {time : Timestamp} (hturn : stage.hub.turn time id = none)
    (hturn' : (stage.onStream i other).hub.turn time id = none) (h : stage.Overlooks id other) :
    (stage.onStream i other).step time (.turn id) =
        (stage.step time (.turn id)).onStream i other ∧
      (stage.onStream i other).trace time (.turn id) = stage.trace time (.turn id) ∧
      (stage.step time (.turn id)).Overlooks id other := by
  refine ⟨?_, ?_, ?_⟩
  · simp only [step, hturn, hturn', Option.getD_none]
  · simp only [trace, hturn, hturn']
  · simp only [step, hturn, Option.getD_none]
    exact h

/-- A session that finds something does the same about it. -/
theorem handle_onStream {event : Session.Event} {left : Inbound} {time : Timestamp}
    (hsession : stage.hub.session? id = some session) (hover : session.isOver = false)
    (hnext : (session.nextEvent.run time stage.hub.store).1 = some event)
    (hrun : session.nextEvent.run time (stage.onStream session.inbound other).hub.store =
      ((session.nextEvent.run time stage.hub.store).1,
        (session.nextEvent.run time stage.hub.store).2.updateInbound session.inbound fun _ => left))
    (htrace : session.nextEvent.trace time (stage.onStream session.inbound other).hub.store =
      session.nextEvent.trace time stage.hub.store)
    (hleft : ((session.nextEvent.run time stage.hub.store).2.inbound session.inbound).ReadsLike
      left ∨ ∃ ending, event = .ending ending) :
    (stage.onStream session.inbound other).step time (.turn id) =
        (stage.step time (.turn id)).onStream session.inbound left ∧
      (stage.onStream session.inbound other).trace time (.turn id) = stage.trace time (.turn id) ∧
      (stage.step time (.turn id)).Overlooks id left := by
  have hsame : (stage.onStream session.inbound other).hub.session? id = some session := hsession
  have hpolicy : (stage.onStream session.inbound other).hub.settings = stage.hub.settings := rfl
  have hnext' : (session.nextEvent.run time (stage.onStream session.inbound other).hub.store).1 =
      some event := (congrArg Prod.fst hrun).trans hnext
  have hdeaf := session.only_handle_not_receive stage.hub.settings.policy event
  obtain ⟨hhandle, hdeeds⟩ := Program.run_updateInbound
    (hdeaf.mono fun _ hnot => hnot session.inbound) time
    (session.nextEvent.run time stage.hub.store).2 fun _ => left
  have hturn := Hub.turn_of_heard? hsession hover hnext
  have hturn' := Hub.turn_of_heard? hsame hover hnext'
  rw [hrun, hpolicy, hhandle] at hturn'
  refine ⟨?_, ?_, { session with
    state := ((session.handle stage.hub.settings.policy event).run time
      (session.nextEvent.run time stage.hub.store).2).1 }, ?_, ?_⟩
  · simp only [step, hturn, hturn', Option.getD_some]
    rfl
  · simp only [trace, hturn, hturn', hsession, hsame, hpolicy]
    rw [Session.trace_turn_of_event hnext, Session.trace_turn_of_event hnext', hrun, hdeeds, htrace]
  · simp only [step, hturn, Option.getD_some]
    exact Hub.session?_setIfInBounds hsession
  · simp only [step, hturn, Option.getD_some]
    rcases hleft with hleft | ⟨ending, rfl⟩
    · rw [Program.inbound_run fun _ hm => hdeaf.of_mem_trace hm _]
      exact .inr hleft
    · exact .inl (Session.over_handle_ending hover ending)

/-- **In its own turn a session does the same** on a stream that it reads alike. -/
theorem turn_onStream (hstreams : stage.Streams) (hsession : stage.hub.session? id = some session)
    (h : stage.Overlooks id other) (time : Timestamp) :
    ∃ left, (stage.onStream session.inbound other).step time (.turn id) =
        (stage.step time (.turn id)).onStream session.inbound left ∧
      (stage.onStream session.inbound other).trace time (.turn id) = stage.trace time (.turn id) ∧
      (stage.step time (.turn id)).Overlooks id left := by
  have ⟨session', hsession', hlike⟩ := h
  cases hsession.symm.trans hsession'
  have hsame : (stage.onStream session.inbound other).hub.session? id = some session := hsession
  cases hover : session.isOver with
  | true =>
    exact ⟨other, idle_onStream (Hub.turn_of_over hsession hover) (Hub.turn_of_over hsame hover) h⟩
  | false =>
    have hreads := hlike.resolve_left (by simp [hover])
    obtain ⟨left, hrun, htrace, hleft⟩ :=
      Session.nextEvent_onStream (lt_of_session hstreams hsession) hreads time
    cases hnext : (session.nextEvent.run time stage.hub.store).1 with
    | none =>
      have hidle : ∀ {hub : Hub}, hub.session? id = some session →
          (session.nextEvent.run time hub.store).1 = none → hub.turn time id = none := by
        intro hub hs hnone
        rw [Hub.turn_of_running hs hover, Session.run_turn_of_none hnone, Option.map_none]
      have hlook := congrArg Prod.fst hrun
      exact ⟨other, idle_onStream (hidle hsession hnext) (hidle hsame (hlook.trans hnext)) h⟩
    | some event =>
      refine ⟨left, handle_onStream hsession hover hnext hrun htrace ?_⟩
      refine hleft.imp_right fun ⟨ending, hending⟩ => ⟨ending, ?_⟩
      exact Option.some.inj (hnext.symm.trans hending)

/-- **What comes in for a session that overlooks it** changes nothing but its stream. -/
theorem feed_onStream (hstreams : stage.Streams) (hsession : stage.hub.session? id = some session)
    (h : stage.Overlooks id other) {move : Move} (hfeeds : move.feeds id = true)
    (time : Timestamp) :
    (∃ left, (stage.onStream session.inbound other).step time move =
        stage.onStream session.inbound left ∧ stage.Overlooks id left) ∧
      (stage.onStream session.inbound other).trace time move = [] := by
  have hsame : (stage.onStream session.inbound other).hub.session? id = some session := hsession
  have hread : (stage.onStream session.inbound other).hub.store.inbound session.inbound = other :=
    Store.inbound_updateInbound_self _ (lt_of_session hstreams hsession)
  cases move with
  | arrive fed arrival =>
    obtain rfl : fed = id := of_decide_eq_true hfeeds
    refine ⟨?_, rfl⟩
    simp only [step, Hub.send, hsame, hread]
    cases hopen : other.isOpen with
    | false => exact ⟨other, rfl, h⟩
    | true =>
      cases hover : session.isOver with
      | true => exact ⟨other, rfl, h⟩
      | false =>
        obtain ⟨session', hsession', hlike⟩ := h
        cases hsession.symm.trans hsession'
        rw [hover] at hlike
        have hreads := hlike.resolve_left (by simp)
        refine ⟨other.push arrival, ?_, session, hsession, .inr (hreads.push hopen arrival)⟩
        simp only [onStream, Hub.onStream, Store.updateInbound_updateInbound]
        rfl
  | endInput fed =>
    obtain rfl : fed = id := of_decide_eq_true hfeeds
    refine ⟨⟨other.finish, ?_, ?_⟩, rfl⟩
    · simp only [step, Hub.endInput, hsame]
      simp only [onStream, Hub.onStream, Store.updateInbound_updateInbound]
    · obtain ⟨session', hsession', hlike⟩ := h
      exact ⟨session', hsession', hlike.imp_right Inbound.ReadsLike.finish⟩
  | _ => cases hfeeds

theorem onStream_self (stage : Stage) (i : InboundId) :
    stage.onStream i (stage.hub.store.inbound i) = stage := by
  rw [onStream, Hub.onStream, Store.updateInbound_self]

/-- Only its session reads a stream, and only what comes in for it is put there. -/
theorem inbound_step {move : Move} (hstreams : stage.Streams)
    (hsession : stage.hub.session? id = some session) (hfeeds : move.feeds id = false)
    (hturn : move ≠ .turn id) (time : Timestamp) :
    (stage.step time move).hub.store.inbound session.inbound =
      stage.hub.store.inbound session.inbound := by
  obtain ⟨hstep, -⟩ := step_onStream hstreams hsession hfeeds hturn time
    (stage.hub.store.inbound session.inbound)
  rw [onStream_self] at hstep
  rw [hstep]
  exact Store.inbound_updateInbound_self _
    (lt_of_session (hstreams.step time move) (session_step_of_ne hsession time hturn))

/-- **A stage with something else on the stream of a session that overlooks it** takes the same
steps. -/
theorem overlooked_step {move : Move} (hstreams : stage.Streams)
    (hsession : stage.hub.session? id = some session) (h : stage.Overlooks id other)
    (hfeeds : move.feeds id = false) (time : Timestamp) :
    ∃ left, (stage.onStream session.inbound other).step time move =
        (stage.step time move).onStream session.inbound left ∧
      (stage.onStream session.inbound other).trace time move = stage.trace time move ∧
      (stage.step time move).Overlooks id left := by
  by_cases hturn : move = .turn id
  · subst hturn
    exact turn_onStream hstreams hsession h time
  · obtain ⟨hstep, htrace⟩ := step_onStream hstreams hsession hfeeds hturn time other
    obtain ⟨session', hsession', hlike⟩ := h
    cases hsession.symm.trans hsession'
    refine ⟨other, hstep, htrace, session, session_step_of_ne hsession time hturn, ?_⟩
    rw [inbound_step hstreams hsession hfeeds hturn time]
    exact hlike

/-- **Two runs that differ in what comes in for a session that overlooks it** are the same but for
the session's stream. -/
theorem run_onStream (moves : List (Timestamp × Move)) (hstreams : stage.Streams)
    (hsession : stage.hub.session? id = some session) (h : stage.Overlooks id other) :
    ∃ left, (stage.onStream session.inbound other).run moves =
        (stage.run (moves.filter fun move => !move.2.feeds id)).onStream session.inbound left ∧
      logOf (history moves (stage.onStream session.inbound other)) =
        logOf (history (moves.filter fun move => !move.2.feeds id) stage) := by
  induction moves generalizing stage session other with
  | nil => exact ⟨other, rfl, rfl⟩
  | cons move rest ih =>
    obtain ⟨time, move⟩ := move
    cases hfeeds : move.feeds id with
    | true =>
      obtain ⟨⟨left, hstep, hleft⟩, htrace⟩ := feed_onStream hstreams hsession h hfeeds time
      obtain ⟨last, hrun, hlog⟩ := ih hstreams hsession hleft
      rw [List.filter_cons_of_neg (by simp [hfeeds])]
      refine ⟨last, ?_, ?_⟩
      · rw [← hrun, ← hstep]
        rfl
      · rw [history, logOf_cons, hstep, hlog]
        exact congrArg (· ++ _) htrace
    | false =>
      obtain ⟨left, hstep, htrace, hleft⟩ := overlooked_step hstreams hsession h hfeeds time
      obtain ⟨state, hafter, -⟩ := session_step hsession time move
      obtain ⟨last, hrun, hlog⟩ := ih (hstreams.step time move) hafter hleft
      rw [List.filter_cons_of_pos (by simp [hfeeds])]
      refine ⟨last, ?_, ?_⟩
      · refine Eq.trans ?_ hrun
        rw [← hstep]
        rfl
      · rw [history, logOf_cons, hstep, hlog, history, logOf_cons]
        exact congrArg (· ++ _) htrace

end Stage

/-! ### What is heeded -/

/-- Whether nothing that comes in for the session behind this move matters to it. -/
def Move.concludes (id : SessionId) : Move → Bool
  | .arrive other arrival => other = id && arrival.complaint?.isSome
  | .endInput other => other = id
  | _ => false

/-- The moves without what comes in for the session behind its end. -/
def heeded (id : SessionId) : List (Timestamp × Move) → List (Timestamp × Move)
  | [] => []
  | move :: rest =>
    move :: if move.2.concludes id then rest.filter fun later => !later.2.feeds id
      else heeded id rest

namespace Stage

variable {stage : Stage} {id : SessionId} {session : Session}

/-- A session overlooks what comes in behind its end. -/
theorem overlooks_of_concludes (hstreams : stage.Streams)
    (hsession : stage.hub.session? id = some session) {move : Move}
    (h : move.concludes id = true) (time : Timestamp) :
    (stage.step time move).Overlooks id
      ((stage.step time move).hub.store.inbound session.inbound) := by
  have hended : ∀ {inbound : Inbound}, inbound.isOpen = false → inbound.ReadsLike inbound := by
    rintro ⟨arrivals, isOpen⟩ rfl
    exact .ended arrivals
  cases move with
  | arrive fed arrival =>
    obtain ⟨hfed, hcomplaint⟩ := (Bool.and_eq_true _ _).mp h
    obtain rfl : fed = id := of_decide_eq_true hfed
    have hafter : (stage.step time (.arrive fed arrival)).hub.session? fed = some session :=
      session_step_of_ne hsession time (by simp)
    refine ⟨session, hafter, ?_⟩
    simp only [step, Hub.send, hsession]
    cases hopen : (stage.hub.store.inbound session.inbound).isOpen with
    | false => exact .inr (hended hopen)
    | true =>
      cases hover : session.isOver with
      | true => exact .inl rfl
      | false =>
        refine .inr ?_
        simp only [if_true, Bool.false_eq_true, if_false]
        rw [Store.inbound_updateInbound_self _ (lt_of_session hstreams hsession)]
        exact .ending _ hcomplaint [] [] _ _
  | endInput fed =>
    obtain rfl : fed = id := of_decide_eq_true h
    have hafter : (stage.step time (.endInput fed)).hub.session? fed = some session :=
      session_step_of_ne hsession time (by simp)
    refine ⟨session, hafter, .inr (hended ?_)⟩
    simp only [step, Hub.endInput, hsession]
    rw [Store.inbound_updateInbound_self _ (lt_of_session hstreams hsession)]
    rfl
  | _ => cases h

/-- **What comes in for a session behind its end makes no difference**, except that it may stay on
the session's stream. -/
theorem run_heeded (moves : List (Timestamp × Move)) (hstreams : stage.Streams)
    (hsession : stage.hub.session? id = some session) :
    ∃ left, stage.run moves = (stage.run (heeded id moves)).onStream session.inbound left ∧
      logOf (history moves stage) = logOf (history (heeded id moves) stage) := by
  induction moves generalizing stage session with
  | nil => exact ⟨_, (stage.onStream_self _).symm, rfl⟩
  | cons move rest ih =>
    obtain ⟨time, move⟩ := move
    obtain ⟨state, hafter, -⟩ := session_step hsession time move
    obtain ⟨left, hrun, hlog⟩ : ∃ left, (stage.step time move).run rest =
        ((stage.step time move).run (if move.concludes id then
          rest.filter fun later => !later.2.feeds id else heeded id rest)).onStream
            session.inbound left ∧
        logOf (history rest (stage.step time move)) =
          logOf (history (if move.concludes id then
            rest.filter fun later => !later.2.feeds id else heeded id rest)
              (stage.step time move)) := by
      split
      · rename_i hconcludes
        have hrest := run_onStream rest (hstreams.step time move) hafter
          (overlooks_of_concludes hstreams hsession hconcludes time)
        rwa [onStream_self] at hrest
      · have hrest := ih (hstreams.step time move) hafter
        exact hrest
    refine ⟨left, hrun, ?_⟩
    rw [heeded, history, logOf_cons, history, logOf_cons, hlog]

end Stage

end BroadcastChat
