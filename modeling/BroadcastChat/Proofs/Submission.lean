/-
# Who may submit

A submit looks up its sender, asks whether the endpoint found is closed, and
then either tidies up and refuses or goes on as a broadcast. So it is a
broadcast exactly for senders that are live (`Store.Live`), and where it
refuses it leaves everything as it was, but for a dead binding of the sender
itself. On a hub on which no session has anything to do there are no dead
bindings, so that the live senders are those on the list of names.

Key definitions: `Store.Live`, `Submitted`.
Key theorems: `Program.mayRun_submit_of_live`,
`Program.mayRun_submit_of_not_live`, `Stage.live_iff_mem_names`, `submission`.
-/
import BroadcastChat.Proofs.Distribution
import BroadcastChat.Proofs.Coherence

namespace BroadcastChat

/-- Whether a name is bound to an endpoint that is open. -/
def Store.Live (store : Store) (name : Name) : Prop :=
  ∃ e, store.Binds name e ∧ ¬store.Closed e

/-! ### What a look answers -/

namespace Answers

variable {store after : Store} {seen : List Registry}

theorem lookup {name : Name} {holder : Option EndpointId}
    (h : Answers store seen (.lookup name) holder after) :
    holder = store.registry.lookup name ∧ store = after := by
  have hperform := h.eq_perform (by simp) (by simp) ⟨0⟩
  exact ⟨(congrArg Prod.fst hperform).symm, congrArg Prod.snd hperform⟩

theorem isClosed {e : EndpointId} {closed : Bool}
    (h : Answers store seen (.isClosed e) closed after) :
    closed = (store.endpoint e).isClosed ∧ store = after := by
  have hperform := h.eq_perform (by simp) (by simp) ⟨0⟩
  exact ⟨(congrArg Prod.fst hperform).symm, congrArg Prod.snd hperform⟩

theorem removeIfCurrent {name : Name} {e : EndpointId} {removed : Bool}
    (h : Answers store seen (.removeIfCurrent name e) removed after) :
    after = { store with registry := (store.registry.removeIfCurrent name e).2 } :=
  (congrArg Prod.snd (h.eq_perform (by simp) (by simp) ⟨0⟩)).symm

end Answers

namespace Program

variable {store after : Store} {message : Message} {events : List Event}
  {result : Except NotSubscribed Report}

/-! ### A live sender -/

/-- **For a live sender, a submit is two looks and a broadcast.** -/
theorem mayRun_submit_of_live {e : EndpointId} (hb : store.Binds message.sender e)
    (hopen : ¬store.Closed e) :
    (submit message).MayRun store events result after ↔
      ∃ rest report, (broadcast message).MayRun store rest report after ∧ result = .ok report ∧
        events = [⟨.lookup message.sender, some e⟩, ⟨.isClosed e, false⟩] ++ rest := by
  have hclosed : (store.endpoint e).isClosed = false := Bool.eq_false_iff.2 hopen
  constructor
  · intro h
    obtain ⟨holder, mid, rest, hlook, rfl, hlater⟩ := mayRun_act_bind.1 h
    obtain ⟨rfl, rfl⟩ := hlook.lookup
    rw [hb] at hlater ⊢
    obtain ⟨closed, mid', rest', hask, rfl, hlast⟩ := mayRun_act_bind.1 hlater
    obtain ⟨rfl, rfl⟩ := hask.isClosed
    rw [hclosed] at hlast ⊢
    obtain ⟨report, hrun, rfl⟩ := mayRun_map.1 hlast
    exact ⟨rest', report, hrun, rfl, rfl⟩
  · rintro ⟨rest, report, hrun, rfl, rfl⟩
    refine mayRun_act_bind.2 ⟨some e, store, _, ?_, rfl, ?_⟩
    · have hlook : Answers store [store.registry] (.lookup message.sender)
          (store.registry.lookup message.sender) store := .perform ⟨0⟩ (.lookup message.sender)
      rwa [hb] at hlook
    · refine mayRun_act_bind.2 ⟨false, store, _, ?_, rfl, mayRun_map.2 ⟨report, hrun, rfl⟩⟩
      have hask : Answers store [store.registry] (.isClosed e)
          (store.endpoint e).isClosed store := .perform ⟨0⟩ (.isClosed e)
      rwa [hclosed] at hask

/-! ### A sender that is not live -/

/-- Where the sender is not live, a submit refuses and tidies up. -/
theorem mayRun_submit_of_not_live (hlive : ¬store.Live message.sender)
    (h : (submit message).MayRun store events result after) :
    result = .error ⟨message.sender.text⟩ ∧
      after = { store with registry := store.registry.erase message.sender } := by
  obtain ⟨holder, mid, rest, hlook, rfl, hlater⟩ := mayRun_act_bind.1 h
  obtain ⟨rfl, rfl⟩ := hlook.lookup
  cases hb : store.registry.lookup message.sender with
  | none =>
    rw [hb] at hlater
    obtain ⟨rfl, rfl, rfl⟩ := mayRun_pure.1 hlater
    have hsame : after.registry.erase message.sender = after.registry := by
      refine Registry.ext_lookup fun n e => ?_
      rw [Registry.lookup_erase]
      by_cases hn : n = message.sender
      · rw [if_pos hn, hn, hb]
      · rw [if_neg hn]
    exact ⟨rfl, by rw [hsame]⟩
  | some e =>
    have hclosed : (store.endpoint e).isClosed = true := by
      by_contra hopen
      exact hlive ⟨e, hb, hopen⟩
    rw [hb] at hlater
    obtain ⟨closed, mid', rest', hask, rfl, hlast⟩ := mayRun_act_bind.1 hlater
    obtain ⟨rfl, rfl⟩ := hask.isClosed
    rw [hclosed, if_pos rfl] at hlast
    obtain ⟨removed, mid'', rest'', hremove, rfl, hdone⟩ := mayRun_act_bind.1 hlast
    obtain ⟨rfl, rfl, rfl⟩ := mayRun_pure.1 hdone
    rw [hremove.removeIfCurrent, Registry.removeIfCurrent, if_pos hb]
    exact ⟨rfl, rfl⟩

end Program

/-- Freeing a name changes no other binding. -/
theorem Store.binds_erase {store : Store} {name n : Name} {e : EndpointId} :
    ({ store with registry := store.registry.erase name } : Store).Binds n e ↔
      store.Binds n e ∧ n ≠ name := by
  rw [Binds, Registry.lookup_erase, Binds]
  by_cases hn : n = name <;> simp [hn]

/-! ### Live senders and the list of names -/

namespace Stage

variable {stage : Stage} {log : List Event} {time : Timestamp}

/-- When nobody has anything to do, a name is live if and only if it is listed. -/
theorem live_iff_mem_names (htended : stage.Tended log) (hsound : stage.Sound log)
    (hsettled : stage.hub.Settled time) (name : Name) :
    stage.hub.store.Live name ↔ name ∈ stage.hub.names := by
  rw [Hub.names, Registry.mem_names]
  constructor
  · rintro ⟨e, hb, _⟩
    exact ⟨e, hb⟩
  · rintro ⟨e, hb⟩
    exact ⟨e, hb, (htended.served_of_binds hsound hsettled hb).1⟩

end Stage

theorem Hub.submit_ok_iff (hub : Hub) (time : Timestamp) (message : Message) :
    (∃ report, (hub.submit time message).1 = .ok report) ↔ hub.store.Live message.sender := by
  have hrun := Program.mayRun_run time (Program.submit message) hub.store
  constructor
  · rintro ⟨report, hok⟩
    by_contra hlive
    have hrefused := (Program.mayRun_submit_of_not_live hlive hrun).1
    have herror : (hub.submit time message).1 = .error ⟨message.sender.text⟩ := hrefused
    rw [hok] at herror
    cases herror
  · rintro ⟨e, hb, hopen⟩
    obtain ⟨_, report, _, hok, _⟩ := (Program.mayRun_submit_of_live hb hopen).1 hrun
    exact ⟨report, hok⟩

/-- **A submit is allowed exactly for live senders and fails cleanly**, on every store and however
the clock and the listing answer. -/
structure Submitted (message : Message) : Prop where
  /-- A submit comes to an end. -/
  returns : ∀ store : Store,
    ∃ events result after, (Program.submit message).MayRun store events result after
  /-- It is refused if and only if the sender is bound to no open endpoint, always with the sender's
  name. -/
  refused_iff : ∀ (store : Store) events result after,
    (Program.submit message).MayRun store events result after →
    ∀ refusal, result = .error refusal ↔
      refusal = ⟨message.sender.text⟩ ∧ ¬store.Live message.sender
  /-- Then no endpoint and no stream changes and no binding but a dead one of the sender itself. -/
  unchanged : ∀ (store : Store) events result after,
    (Program.submit message).MayRun store events result after → ¬store.Live message.sender →
    after.endpoints = store.endpoints ∧ after.inbounds = store.inbounds ∧
      after.stopped = store.stopped ∧
      ∀ n e, after.Binds n e ↔ store.Binds n e ∧ n ≠ message.sender
  /-- Otherwise what it can report and do is what a broadcast can report and do. -/
  broadcast_iff : ∀ store : Store, store.Live message.sender → ∀ result after,
    (∃ events, (Program.submit message).MayRun store events result after) ↔
      ∃ events report, (Program.broadcast message).MayRun store events report after ∧
        result = .ok report
  /-- At every stage of a run of a hub at which no session has anything to do, a submit succeeds if
  and only if the sender is on the list of names. -/
  listed_iff : ∀ settings moves time stamp, ((Stage.new settings).run moves).hub.Settled time →
    ((∃ report, (((Stage.new settings).run moves).hub.submit stamp message).1 = .ok report) ↔
      message.sender ∈ ((Stage.new settings).run moves).hub.names)

theorem submission (message : Message) : Submitted message where
  returns store := ⟨_, _, _, Program.mayRun_run ⟨0⟩ _ store⟩
  refused_iff store events result after hrun refusal := by
    constructor
    · rintro rfl
      by_cases hlive : store.Live message.sender
      · obtain ⟨e, hb, hopen⟩ := hlive
        obtain ⟨_, _, _, hok, _⟩ := (Program.mayRun_submit_of_live hb hopen).1 hrun
        cases hok
      · have herror := (Program.mayRun_submit_of_not_live hlive hrun).1
        exact ⟨Except.error.inj herror, hlive⟩
    · rintro ⟨rfl, hlive⟩
      exact (Program.mayRun_submit_of_not_live hlive hrun).1
  unchanged store events result after hrun hlive := by
    obtain ⟨_, rfl⟩ := Program.mayRun_submit_of_not_live hlive hrun
    exact ⟨rfl, rfl, rfl, fun n e => Store.binds_erase⟩
  broadcast_iff := by
    rintro store ⟨e, hb, hopen⟩ result after
    simp only [Program.mayRun_submit_of_live hb hopen]
    constructor
    · rintro ⟨_, events, report, hrun, hok, _⟩
      exact ⟨events, report, hrun, hok⟩
    · rintro ⟨events, report, hrun, hok⟩
      exact ⟨_, events, report, hrun, hok, rfl⟩
  listed_iff settings moves time stamp hsettled := by
    have htended := (Stage.tended_new settings).run moves (Stage.sound_new settings)
    have hsound := Stage.sound_run settings moves
    exact (Hub.submit_ok_iff _ stamp message).trans
      (Stage.live_iff_mem_names htended hsound hsettled message.sender)

/-- Dave, whose client is gone, is refused and loses his name; Bob may go on. Where Alice has taken
over and nobody has anything to do, she may submit. -/
theorem submission_crowded :
    ((Program.submit ⟨Sample.dave, .empty⟩).run ⟨9⟩ Sample.crowded).2.registry.names =
      [Sample.alice, Sample.bob, Sample.erin] ∧
    (∀ e, ¬((Program.submit ⟨Sample.dave, .empty⟩).run ⟨9⟩ Sample.crowded).2.Binds
      Sample.dave e) ∧
    (∃ events report after, (Program.submit ⟨Sample.bob, .empty⟩).MayRun Sample.crowded events
      (.ok report) after) ∧
    ∃ report, (((Stage.new {}).run Sample.superseding).hub.submit ⟨11⟩
      ⟨Sample.alice, .empty⟩).1 = .ok report := by
  have hdead : ¬Sample.crowded.Live Sample.dave := by
    rintro ⟨e, hb, hopen⟩
    have hbound : Sample.crowded.Binds Sample.dave ⟨0⟩ := by decide
    rw [hb.unique hbound] at hopen
    exact hopen (by decide)
  have hlive : Sample.crowded.Live Sample.bob := ⟨⟨2⟩, by decide, by decide⟩
  have hrefused := submission ⟨Sample.dave, .empty⟩
  have hallowed := submission ⟨Sample.bob, .empty⟩
  have hlisted := submission ⟨Sample.alice, .empty⟩
  have hsettled : ((Stage.new {}).run Sample.superseding).hub.Settled ⟨10⟩ :=
    Hub.settled_of_sessions (by decide)
  refine ⟨by decide, fun e hb => ?_, ?_, ?_⟩
  · have hcleaned := hrefused.unchanged _ _ _ _ (Program.mayRun_run ⟨9⟩ _ Sample.crowded) hdead
    exact ((hcleaned.2.2.2 Sample.dave e).1 hb).2 rfl
  · have hrun := Program.mayRun_run ⟨9⟩ (Program.broadcast ⟨Sample.bob, .empty⟩) Sample.crowded
    obtain ⟨events, h⟩ := (hallowed.broadcast_iff _ hlive _ _).2 ⟨_, _, hrun, rfl⟩
    exact ⟨events, _, _, h⟩
  · exact (hlisted.listed_iff {} Sample.superseding ⟨10⟩ ⟨11⟩ hsettled).2 (by decide)

end BroadcastChat
