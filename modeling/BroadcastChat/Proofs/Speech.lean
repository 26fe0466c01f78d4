/-
# A moment in which somebody speaks

Whoever speaks broadcasts once, at the end of the moment. Before that a
session at most takes a name over, so an endpoint that held a name before is
either still in place when the broadcast begins or superseded and closed
(`Moment.Speech`).

Key definitions: `Moment.Speech`.
Key theorems: `Moment.speech_of_relayed`, `Moment.kept_of_hello`,
`Moment.exists_speech`, `Moment.readings_of_spoken`.
-/
import BroadcastChat.Proofs.Moments

namespace BroadcastChat

namespace Moment

variable {moment : Moment} {log : List Event} {d : Delivery}

/-- The moment ends with a broadcast of the delivery from the store `mid`, and what comes before it
at most registers one endpoint and closes another one. -/
structure Speech (moment : Moment) (d : Delivery) (before : List Event) (mid : Store) : Prop where
  kinds : OfKinds [.register, .close, .receive, .other] before
  trace_eq : moment.trace = before ++ (Program.broadcast d.message).trace moment.time mid
  store_eq : moment.after.hub.store = ((Program.broadcast d.message).run moment.time mid).2
  stamp : d.receivedAt = moment.time
  distinct : mid.Distinct
  ends_eq : ∀ e, moment.ends e = false
  binds_before : ∀ {n e}, mid.Binds n e → n ≠ d.sender → moment.stage.hub.store.Binds n e
  kept : ∀ {n e}, moment.stage.hub.store.Binds n e → ¬moment.stage.hub.store.Closed e →
    mid.Has e ∧ mid.Closed e ∧ (∃ x, Registered before n x) ∨
      mid.Binds n e ∧ ¬mid.Closed e ∧ ∀ x, ¬Registered before n x

/-- A session that speaks has heard a message. -/
theorem heard_of_spoken {stage : Stage} {time : Timestamp} {id : SessionId}
    (h : spoken? ⟨stage, time, .turn id⟩ = some d) :
    ∃ session message speech, stage.hub.session? id = some session ∧ session.isOver = false ∧
      (session.nextEvent.run time stage.hub.store).1 = some (.message message) ∧
      session.speech? stage.hub.settings.policy message = some speech ∧ d = ⟨speech, time⟩ := by
  unfold spoken? at h
  dsimp only at h
  split at h
  · rename_i session message hsession hheard
    obtain ⟨speech, hspeech, rfl⟩ := Option.map_eq_some_iff.1 h
    obtain ⟨session', hsession', hover, hnext⟩ := Hub.session_of_heard? hheard
    rw [hsession] at hsession'
    cases hsession'
    exact ⟨session, message, speech, hsession, hover, hnext, hspeech, rfl⟩
  · cases h

theorem turn_of_event {stage : Stage} {time : Timestamp} {id : SessionId} {session : Session}
    {event : Session.Event} (hsession : stage.hub.session? id = some session)
    (hover : session.isOver = false)
    (hnext : (session.nextEvent.run time stage.hub.store).1 = some event) :
    trace ⟨stage, time, .turn id⟩ = session.nextEvent.trace time stage.hub.store ++
        (session.handle stage.hub.settings.policy event).trace time
          (session.nextEvent.run time stage.hub.store).2 ∧
      (after ⟨stage, time, .turn id⟩).hub.store =
        ((session.handle stage.hub.settings.policy event).run time
          (session.nextEvent.run time stage.hub.store).2).2 ∧
      (after ⟨stage, time, .turn id⟩).hub.session? id = some { session with
        state := ((session.handle stage.hub.settings.policy event).run time
          (session.nextEvent.run time stage.hub.store).2).1 } := by
  have hturn := Hub.turn_of_heard? hsession hover hnext
  refine ⟨?_, ?_, ?_⟩
  · simp only [trace, Stage.trace, hturn, hsession]
    exact Session.trace_turn_of_event hnext
  · simp only [after, Stage.step, hturn, Option.getD_some]
  · simp only [after, Stage.step, hturn, Option.getD_some]
    exact Hub.session?_setIfInBounds hsession

theorem ends_turn_of_active {stage : Stage} {time : Timestamp} {id : SessionId} {session : Session}
    {name : Name} (h : (after ⟨stage, time, .turn id⟩).hub.session? id = some session)
    (hs : session.state = .active name) (e : EndpointId) :
    ends e ⟨stage, time, .turn id⟩ = false := by
  have hover : session.isOver = false := Session.isOver_of_active hs
  unfold ends
  dsimp only
  rw [h, Option.any_some, hover, Bool.and_false]

/-- Relaying a message. -/
theorem speech_of_relayed {stage : Stage} {time : Timestamp} {id : SessionId} {session : Session}
    {name : Name} {message : Message} (h : stage.Sound log)
    (hsession : stage.hub.session? id = some session) (hs : session.state = .active name)
    (hnext : (session.nextEvent.run time stage.hub.store).1 = some (.message message)) :
    Speech ⟨stage, time, .turn id⟩ ⟨message.sentAs name, time⟩
      (session.nextEvent.trace time stage.hub.store)
      (session.nextEvent.run time stage.hub.store).2 := by
  have hover : session.isOver = false := Session.isOver_of_active hs
  obtain ⟨htrace, hstore, hafter⟩ := turn_of_event hsession hover hnext
  have hkinds : OfKinds [.receive, .other] (session.nextEvent.trace time stage.hub.store) :=
    session.within_nextEvent.ofKinds
  have halike := session.within_nextEvent.alike time stage.hub.store
  rw [Session.run_handle_relayed hs] at hstore hafter
  rw [Session.trace_handle_relayed hs] at htrace
  refine ⟨hkinds.mono (by decide), htrace, hstore, rfl, ?_, ends_turn_of_active hafter rfl,
    fun hb _ => halike.binds_iff.1 hb, ?_⟩
  · have hdistinct := h.books.distinct
    unfold Store.Distinct at hdistinct ⊢
    rwa [halike.registry_eq]
  · intro n e hb hc
    exact .inr ⟨halike.binds_iff.2 hb, fun hc' => hc (halike.closed_iff.1 hc'),
      hkinds.not_registered (by decide) n⟩

/-- What taking a name over by a first message means for somebody who holds a name. -/
theorem kept_of_hello {stage : Stage} {time : Timestamp} {id : SessionId} {session : Session}
    {hello : Message} (h : stage.Sound log) (hsession : stage.hub.session? id = some session)
    (hs : session.state = .awaitingHello)
    (hnext : (session.nextEvent.run time stage.hub.store).1 = some (.message hello)) :
    let heard := (session.nextEvent.run time stage.hub.store).2
    let events := session.nextEvent.trace time stage.hub.store ++
      (Program.takeOver hello.sender session.endpoint).trace time heard
    let mid := ((Program.takeOver hello.sender session.endpoint).run time heard).2
    mid.Distinct ∧ ∀ {n e}, stage.hub.store.Binds n e → ¬stage.hub.store.Closed e →
      mid.Has e ∧ mid.Closed e ∧ (∃ x, Registered events n x) ∨
        mid.Binds n e ∧ ¬mid.Closed e ∧ ∀ x, ¬Registered events n x := by
  intro heard events mid
  obtain ⟨rest, hn, _⟩ := Stage.exists_notes_of_session hsession
  have hnote : session.note = .made session.endpoint := by
    rw [Session.note, hs]
  have halike : stage.hub.store.Alike heard :=
    session.within_nextEvent.alike time stage.hub.store
  have hlooked : OfKinds [.receive, .other] (session.nextEvent.trace time stage.hub.store) :=
    session.within_nextEvent.ofKinds
  have htaken : OfKinds [.register, .close]
      ((Program.takeOver hello.sender session.endpoint).trace time heard) :=
    (Program.within_takeOver _ _).ofKinds
  -- the books when the message is heard, and when the name is taken over
  obtain ⟨own, hown, hheard⟩ := h.books_run time
    (by rw [hn, Multiset.cons_add, zero_add]) session.keeps_nextEvent
  have hmade : session.heard 0 (some (.message hello)) = .made session.endpoint ::ₘ 0 := by
    rw [← hnote]
    rfl
  rw [hown, hnext, hmade] at hheard
  have hkeeps : (Program.takeOver hello.sender session.endpoint).Keeps
      (fun _ notes => notes = .held hello.sender session.endpoint ::ₘ 0)
      (.made session.endpoint ::ₘ 0) := Program.keeps_takeOver _ _
  obtain ⟨own', rfl, hmid⟩ := hheard.run time hkeeps
  have howes : ∀ e, .owes e ∉ .held hello.sender session.endpoint ::ₘ 0 + rest := by
    intro e hm
    rw [Multiset.cons_add, zero_add] at hm
    rcases Multiset.mem_cons.1 hm with heq | hm
    · cases heq
    · have hmem : Note.owes e ∈ stage.notes := by
        rw [hn]
        exact Multiset.mem_cons_of_mem hm
      cases Stage.owned_of_mem_notes hmem
  refine ⟨hmid.distinct, fun {n e} hb hc => ?_⟩
  have hreg : Registered log n e := h.books.registered_of_binds hb
  have hhas : heard.Has e := (halike.has_iff e).2 (h.books.has_of_binds hb)
  by_cases hnew : ∃ x, Registered events n x
  · left
    obtain ⟨x, hx⟩ := hnew
    refine ⟨Program.has_run hhas, ?_, x, hx⟩
    rw [List.append_assoc] at hmid
    refine (hmid.closed_or_binds (howes e) (registered_append.2 (.inl hreg))).resolve_right ?_
    exact hmid.not_binds_of_newer hreg hx
  · right
    have hnone : ∀ x, ¬Registered events n x := fun x hx => hnew ⟨x, hx⟩
    have hharm : Harmless (.made session.endpoint ::ₘ 0) e := by
      rw [harmless_cons]
      have hne := h.endpoint_ne_of_awaiting (Stage.mem_sessions hsession) hs hreg
      exact ⟨⟨fun heq => hne (Option.some.inj heq), by simp⟩, harmless_zero⟩
    obtain ⟨hb', hc'⟩ := hheard.spare_run time hkeeps hharm (halike.binds_iff.2 hb)
      (fun hc' => hc (halike.closed_iff.1 hc'))
      (fun x hx => hnone x (registered_append.2 (.inr hx)))
      (htaken.not_swept (by decide))
      (fun r hr => by rw [htaken.refusals_eq (by decide)] at hr; cases hr)
    exact ⟨hb', hc', hnone⟩

/-- **Whatever is spoken is a broadcast at the end of its moment.** -/
theorem exists_speech (h : moment.stage.Sound log) (hd : moment.spoken? = some d) :
    ∃ before mid, moment.Speech d before mid := by
  obtain ⟨stage, time, move⟩ := moment
  cases move with
  | submit message =>
    unfold spoken? at hd
    dsimp only at hd
    split at hd
    · rename_i report hreport
      cases hd
      obtain ⟨events, hkinds, htrace, hrun⟩ := Program.submit_accepted hreport
      refine ⟨events, stage.hub.store, hkinds.mono (by decide), htrace, hrun, rfl,
        h.books.distinct, fun _ => rfl, fun hb _ => hb, fun hb hc => ?_⟩
      exact .inr ⟨hb, hc, hkinds.not_registered (by decide) _⟩
    · cases hd
  | turn id =>
    obtain ⟨session, message, speech, hsession, hover, hnext, hspeech, rfl⟩ := heard_of_spoken hd
    cases hs : session.state with
    | awaitingHello =>
      unfold Session.speech? at hspeech
      rw [hs] at hspeech
      cases hpolicy : stage.hub.settings.policy with
      | registerOnly =>
        rw [hpolicy] at hspeech
        cases hspeech
      | broadcast =>
        rw [hpolicy] at hspeech
        cases hspeech
        obtain ⟨htrace, hstore, hafter⟩ := turn_of_event hsession hover hnext
        rw [hpolicy, Session.run_handle_hello hs] at hstore hafter
        rw [hpolicy, Session.trace_handle_hello hs, ← List.append_assoc] at htrace
        obtain ⟨hdistinct, hkept⟩ := kept_of_hello h hsession hs hnext
        refine ⟨_, _, ?_, htrace, hstore, rfl, hdistinct, ends_turn_of_active hafter rfl, ?_, hkept⟩
        · refine OfKinds.append ?_ ?_
          · exact session.within_nextEvent.ofKinds.mono (by decide)
          · exact (Program.within_takeOver _ _).ofKinds.mono (by decide)
        · intro n e hb hne
          have hother : n ≠ message.sender := hne
          rw [Program.binds_takeOver, if_neg hother] at hb
          exact (session.within_nextEvent.alike time stage.hub.store).binds_iff.1 hb
    | active name =>
      unfold Session.speech? at hspeech
      rw [hs] at hspeech
      cases hspeech
      exact ⟨_, _, speech_of_relayed h hsession hs hnext⟩
    | closing name outcome =>
      unfold Session.speech? at hspeech
      rw [hs] at hspeech
      cases hspeech
    | closed outcome =>
      unfold Session.speech? at hspeech
      rw [hs] at hspeech
      cases hspeech
  | _ => cases hd

/-- Whoever speaks looks at the clock once, and that is the stamp. -/
theorem readings_of_spoken (h : moment.stage.Sound log) (hd : moment.spoken? = some d) :
    readings moment.trace = [d.receivedAt] := by
  obtain ⟨before, mid, hspeech⟩ := exists_speech h hd
  rw [hspeech.trace_eq, hspeech.stamp, Program.trace_broadcast, readings_append, readings_append,
    hspeech.kinds.readings_eq (by decide), (Program.within_handOut _ _ _).ofKinds.readings_eq
      (by decide)]
  rfl

end Moment

end BroadcastChat
