/-
# How a message is taken up

A message gets into a hub by a submit or by a session that finds it in its
client's stream. Either way everybody else who holds a name and whose queue has
room has it as the last one in its queue (`Store.HandsOut`), with exactly its
texts; and a session that finds its first message holds the name in it.

A broadcast is exact about every queue. What a session does before its
broadcast, which is to read its stream and at most to take a name over, changes
no queue of anybody who holds another name (`Program.endpoint_takeOver`).

Key definition: `Store.HandsOut`.
Key theorems: `Program.handsOut_broadcast`, `Hub.handsOut_submit`,
`Stage.greeted`, `Stage.relayed`.
-/
import BroadcastChat.Proofs.Delivery
import BroadcastChat.Proofs.Inflow
import BroadcastChat.Proofs.Submission

namespace BroadcastChat

/-- Whoever else holds a name and has room gets the delivery, as the last one in its queue. -/
def Store.HandsOut (before after : Store) (delivery : Delivery) : Prop :=
  ∀ n e, before.Binds n e → n ≠ delivery.sender → before.refusal? e = none →
    (after.endpoint e).unread = (before.endpoint e).unread ++ [delivery]

variable {store : Store} {time : Timestamp}

theorem Store.HandsOut.of_same {heard after : Store} {delivery : Delivery}
    (h : heard.HandsOut after delivery) (hregistry : heard.registry = store.registry)
    (hendpoint : ∀ e, heard.endpoint e = store.endpoint e) : store.HandsOut after delivery := by
  intro n e hb hne hroom
  have hkept : heard.Binds n e := by
    rw [Binds, hregistry]
    exact hb
  have hfree : heard.refusal? e = none := by
    rw [refusal?, hendpoint e]
    exact hroom
  rw [h n e hkept hne hfree, hendpoint e]

theorem Store.Distinct.of_same {heard : Store} (h : store.Distinct)
    (hregistry : heard.registry = store.registry) : heard.Distinct := by
  unfold Distinct
  rw [hregistry]
  exact h

/-! ### Programs -/

namespace Program

theorem handsOut_broadcast (h : store.Distinct) (message : Message) :
    store.HandsOut ((broadcast message).run time store).2 ⟨message, time⟩ := by
  intro n e hb hne hroom
  have hsender : message.sender ≠ n := Ne.symm hne
  rw [unread_run, accepted_broadcast h hb, if_pos ⟨hsender, hroom⟩]

/-- Taking a name over concerns nobody who holds another one. -/
theorem endpoint_takeOver (h : store.Distinct) {n name : Name} {e x : EndpointId}
    (hb : store.Binds n e) (hne : n ≠ name) :
    ((takeOver name x).run time store).2.endpoint e = store.endpoint e := by
  rw [takeOver, register, run_act_bind]
  cases hsuperseded : ((Action.register name x).perform time store).1 with
  | none => rfl
  | some previous =>
    have hlookup : store.registry.lookup name = some previous :=
      (Option.filter_eq_some_iff.1 hsuperseded).1
    have hother : e ≠ previous := by
      rintro rfl
      exact hne (h.eq_of_binds hb hlookup)
    exact Store.endpoint_update_of_ne _ hother

/-- A first message is handed out to those who hold other names already. -/
theorem handsOut_hello (h : store.Distinct) {hello : Message} {x : EndpointId}
    (hmid : ((takeOver hello.sender x).run time store).2.Distinct) :
    store.HandsOut ((broadcast hello).run time ((takeOver hello.sender x).run time store).2).2
      ⟨hello, time⟩ := by
  intro n e hb hne hroom
  have hother : n ≠ hello.sender := hne
  have hsame : ((takeOver hello.sender x).run time store).2.endpoint e = store.endpoint e :=
    endpoint_takeOver h hb hother
  have hheld : ((takeOver hello.sender x).run time store).2.Binds n e := by
    rw [binds_takeOver, if_neg hother]
    exact hb
  have hfree : ((takeOver hello.sender x).run time store).2.refusal? e = none := by
    rw [Store.refusal?, hsame]
    exact hroom
  rw [handsOut_broadcast hmid hello n e hheld hne hfree, hsame]

end Program

/-- A submit for a sender that is live hands the message out. -/
theorem Hub.handsOut_submit {hub : Hub} (h : hub.store.Distinct) {message : Message}
    (hlive : hub.store.Live message.sender) :
    (∃ report, (hub.submit time message).1 = .ok report) ∧
      hub.store.HandsOut (hub.submit time message).2.store ⟨message, time⟩ := by
  obtain ⟨report, hok⟩ := (hub.submit_ok_iff time message).2 hlive
  refine ⟨⟨report, hok⟩, ?_⟩
  have haccepted : ((Program.submit message).run time hub.store).1 = .ok report := hok
  obtain ⟨events, _, _, hrun⟩ := Program.submit_accepted haccepted
  have hstore : (hub.submit time message).2.store =
      ((Program.broadcast message).run time hub.store).2 := hrun
  rw [hstore]
  exact Program.handsOut_broadcast h message

/-! ### Sessions -/

namespace Session

variable {session : Session}

/-- A session that finds a message runs on a hub that runs, and reads it from its stream. -/
theorem open_of_found {message : Message} (h : session.found? store = some (.message message)) :
    store.stopped = false ∧ ¬store.Closed session.endpoint := by
  unfold found? at h
  split at h
  · cases h
  · rename_i hrunning
    split at h
    · cases h
    · rename_i hopen
      exact ⟨by simpa using hrunning, hopen⟩

theorem found?_push (hwaits : session.found? store = none)
    (hstream : session.inbound.index < store.inbounds.size) (message : Message) :
    session.found? (store.updateInbound session.inbound (·.push (.message message))) =
      some (.message message) := by
  unfold found? at hwaits ⊢
  split at hwaits
  · cases hwaits
  · rename_i hrunning
    split at hwaits
    · cases hwaits
    · rename_i hopen
      have hempty : (store.inbound session.inbound).arrivals = [] := by
        generalize store.inbound session.inbound = inbound at hwaits
        obtain ⟨arrivals, isOpen⟩ := inbound
        cases arrivals with
        | nil => rfl
        | cons arrival rest => cases hwaits
      have hstopped : ¬(store.updateInbound session.inbound
          (·.push (.message message))).stopped = true := hrunning
      have hclosed : ¬((store.updateInbound session.inbound
          (·.push (.message message))).endpoint session.endpoint).isClosed = true := hopen
      have hpushed : (store.updateInbound session.inbound
          (·.push (.message message))).inbound session.inbound =
            (store.inbound session.inbound).push (.message message) :=
        Store.inbound_updateInbound_self _ hstream
      rw [if_neg hstopped, if_neg hclosed, hpushed, Inbound.push, hempty]
      rfl

end Session

namespace Stage

variable {stage : Stage} {log : List Event} {id : SessionId} {session : Session}
  {message : Message}

section

variable (hsession : stage.hub.session? id = some session)
  (hfound : session.found? stage.hub.store = some (.message message))
include hsession hfound

/-- A turn that finds a message handles it on a store from which nothing but the message was
read. -/
theorem step_turn_of_found (time : Timestamp) (hover : session.isOver = false) :
    ∃ heard : Store, heard = (session.nextEvent.run time stage.hub.store).2 ∧
      (session.nextEvent.run time stage.hub.store).1 = some (.message message) ∧
      heard.registry = stage.hub.store.registry ∧
      (∀ e, heard.endpoint e = stage.hub.store.endpoint e) ∧
      (stage.step time (.turn id)).hub.store =
        ((session.handle stage.hub.settings.policy (.message message)).run time heard).2 ∧
      (stage.step time (.turn id)).hub.session? id = some { session with
        state :=
          ((session.handle stage.hub.settings.policy (.message message)).run time heard).1 } := by
  obtain ⟨hrunning, hopen⟩ := Session.open_of_found hfound
  have hnext : (session.nextEvent.run time stage.hub.store).1 = some (.message message) := by
    rw [Session.fst_run_nextEvent, hfound]
  obtain ⟨_, hstore, hafter⟩ := Moment.turn_of_event hsession hover hnext
  refine ⟨(session.nextEvent.run time stage.hub.store).2, rfl, hnext, ?_, fun e => ?_, hstore,
    hafter⟩
  all_goals
    rw [(Session.nextEvent_open time hrunning hopen).1]
    rfl

/-- **A session that finds its first message holds the name in it**, and if greetings are broadcast
the message is handed out as it is. -/
theorem greeted (h : stage.Sound log) (hstate : session.state = .awaitingHello) :
    (stage.step time (.turn id)).hub.session? id =
        some { session with state := .active message.sender } ∧
      (stage.step time (.turn id)).hub.store.Binds message.sender session.endpoint ∧
      (stage.hub.settings.policy = .broadcast →
        stage.hub.store.HandsOut (stage.step time (.turn id)).hub.store ⟨message, time⟩) := by
  obtain ⟨heard, hheard, hnext, hregistry, hendpoint, hstore, hafter⟩ :=
    step_turn_of_found hsession hfound time (Session.isOver_of_awaiting hstate)
  obtain ⟨hmid, _⟩ := Moment.kept_of_hello h hsession hstate hnext
  rw [← hheard] at hmid
  have hbinds : ((Program.takeOver message.sender session.endpoint).run time heard).2.Binds
      message.sender session.endpoint := Program.binds_takeOver.2 (if_pos rfl ▸ rfl)
  cases hpolicy : stage.hub.settings.policy with
  | registerOnly =>
    rw [hpolicy, Session.run_handle_quiet_hello hstate] at hstore hafter
    rw [hstore]
    exact ⟨hafter, hbinds, fun hbroadcast => by cases hbroadcast⟩
  | broadcast =>
    rw [hpolicy, Session.run_handle_hello hstate] at hstore hafter
    rw [hstore]
    refine ⟨hafter, (Program.binds_broadcast hmid _ _ _).2 ⟨hbinds, fun hne => absurd rfl hne⟩,
      fun _ => ?_⟩
    exact (Program.handsOut_hello (h.books.distinct.of_same hregistry) hmid).of_same hregistry
      hendpoint

/-- **What a session finds later is handed out under its own name**, with its body as it is. -/
theorem relayed (h : stage.Sound log) {name : Name} (hstate : session.state = .active name) :
    (stage.step time (.turn id)).hub.session? id = some session ∧
      stage.hub.store.HandsOut (stage.step time (.turn id)).hub.store
        ⟨message.sentAs name, time⟩ := by
  obtain ⟨heard, _, _, hregistry, hendpoint, hstore, hafter⟩ :=
    step_turn_of_found hsession hfound time (Session.isOver_of_active hstate)
  rw [Session.run_handle_relayed hstate] at hstore hafter
  refine ⟨?_, ?_⟩
  · rw [hafter, ← hstate]
  · rw [hstore]
    exact (Program.handsOut_broadcast (h.books.distinct.of_same hregistry) _).of_same hregistry
      hendpoint

end

end Stage

end BroadcastChat
