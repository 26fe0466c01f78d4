/-
# The fate of an endpoint in one moment

An endpoint that is open and holds a name accepts nothing in a moment that
silences it, and is closed afterwards; in every other moment it accepts what
is spoken by others, and stays open and bound (`Moment.fate`). If somebody
speaks, this is read off the broadcast; if nobody does, nobody accepts
anything, and whoever is not silenced was left in peace by the rules of
everybody else's notes.

Key definitions: `Moment.Fate`.
Key theorems: `Moment.fate_of_spoken`, `Moment.closed_of_silences`,
`Moment.spared_of_silent`, `Moment.fate`.
-/
import BroadcastChat.Proofs.Speech

namespace BroadcastChat

namespace Moment

variable {moment : Moment} {log : List Event} {d : Delivery}

/-- What a moment means for an endpoint that is open and holds the name. -/
structure Fate (moment : Moment) (n : Name) (e : EndpointId) : Prop where
  silenced : moment.silences n e = true →
    accepted moment.trace e = [] ∧ moment.after.hub.store.Closed e
  spared : moment.silences n e = false →
    accepted moment.trace e = moment.spoken?.toList.filter (·.sender ≠ n) ∧
      moment.after.hub.store.Binds n e ∧ ¬moment.after.hub.store.Closed e

theorem Fate.of_silenced {n : Name} {e : EndpointId} (hs : moment.silences n e = true)
    (ha : accepted moment.trace e = []) (hc : moment.after.hub.store.Closed e) :
    moment.Fate n e where
  silenced _ := ⟨ha, hc⟩
  spared hs' := by
    rw [hs] at hs'
    cases hs'

theorem Fate.of_spared {n : Name} {e : EndpointId} (hs : moment.silences n e = false)
    (ha : accepted moment.trace e = moment.spoken?.toList.filter (·.sender ≠ n))
    (hb : moment.after.hub.store.Binds n e) (hc : ¬moment.after.hub.store.Closed e) :
    moment.Fate n e where
  silenced hs' := by
    rw [hs] at hs'
    cases hs'
  spared _ := ⟨ha, hb, hc⟩

theorem Speech.registered_iff {before : List Event} {mid : Store}
    (h : moment.Speech d before mid) {n : Name} {e : EndpointId} :
    Registered moment.trace n e ↔ Registered before n e := by
  rw [h.trace_eq, registered_append, or_iff_left]
  exact (Program.within_broadcast d.message).ofKinds.not_registered (by decide) n e

/-- A broadcast that an endpoint takes, or that is its own, leaves it in place. -/
theorem Speech.not_silences {before : List Event} {mid : Store} (h : moment.Speech d before mid)
    (hd : moment.spoken? = some d) {n : Name} {e : EndpointId} (hb : mid.Binds n e)
    (hfree : ∀ x, ¬Registered before n x) (htakes : d.sender ≠ n → mid.refusal? e = none) :
    moment.silences n e = false := by
  rw [Bool.eq_false_iff, Ne, silences_iff]
  rintro (⟨x, hx⟩ | hdrop | hfull | hends | hstop)
  · exact hfree x (h.registered_iff.1 hx)
  · rw [h.trace_eq, drops_append, h.kinds.drops_eq (by decide),
      (Program.within_broadcast _).ofKinds.drops_eq (by decide)] at hdrop
    cases hdrop
  · rw [h.trace_eq, refusals_append, h.kinds.refusals_eq (by decide), List.nil_append,
      Program.mem_refusals_broadcast h.distinct] at hfull
    obtain ⟨n', hb', hne, hr⟩ := hfull
    rw [h.distinct.eq_of_binds hb' hb] at hne
    rw [htakes (Ne.symm hne)] at hr
    cases hr
  · rw [h.ends_eq e] at hends
    cases hends
  · unfold spoken? at hd
    rw [hstop] at hd
    cases hd

/-- What a moment in which somebody speaks means for an endpoint. -/
theorem fate_of_spoken (h : moment.stage.Sound log) (hd : moment.spoken? = some d) {n : Name}
    {e : EndpointId} (hb : moment.stage.hub.store.Binds n e)
    (hc : ¬moment.stage.hub.store.Closed e) : moment.Fate n e := by
  obtain ⟨before, mid, hspeech⟩ := exists_speech h hd
  have hafter : moment.after.Sound (log ++ moment.trace) := h.step moment.time moment.move
  have hbefore : accepted before e = [] := hspeech.kinds.accepted_eq (by decide) e
  rcases hspeech.kept hb hc with ⟨hhas, hclosed, x, hx⟩ | ⟨hmid, hopen, hfree⟩
  · -- its name was taken over before the broadcast
    refine .of_silenced (silences_iff.2 (.inl ⟨x, hspeech.registered_iff.2 hx⟩)) ?_ ?_
    · rw [hspeech.trace_eq, accepted_append, hbefore, Program.accepted_of_closed hhas hclosed]
      rfl
    · rw [hspeech.store_eq]
      exact Program.closed_run hhas hclosed
  · have haccepted : accepted moment.trace e =
        if d.sender ≠ n ∧ mid.refusal? e = none then [d] else [] := by
      rw [hspeech.trace_eq, accepted_append, hbefore, List.nil_append,
        Program.accepted_broadcast hspeech.distinct hmid, ← hspeech.stamp]
      rfl
    have hbinds : moment.after.hub.store.Binds n e ↔ (d.sender ≠ n → mid.refusal? e = none) := by
      rw [hspeech.store_eq, Program.binds_broadcast hspeech.distinct, and_iff_right hmid]
      exact ⟨fun hr hne => hr hne.symm, fun hr hne => hr hne.symm⟩
    by_cases htakes : d.sender ≠ n → mid.refusal? e = none
    · refine .of_spared (hspeech.not_silences hd hmid hfree htakes) ?_ (hbinds.2 htakes) ?_
      · rw [haccepted, hd]
        by_cases hsender : d.sender = n
        · simp [hsender]
        · simp [hsender, htakes hsender]
      · refine hafter.books.open_of_binds (hbinds.2 htakes) ?_
        have hdrops : e ∉ drops ((Program.broadcast d.message).trace moment.time mid) := by
          rw [(Program.within_broadcast _).ofKinds.drops_eq (by decide)]
          exact List.not_mem_nil
        rw [hspeech.store_eq, Program.dropped_run (Store.has_of_open hopen) hdrops]
        exact Store.dropped_of_open hopen
    · -- it is found full
      obtain ⟨hsender, hrefuses⟩ := Classical.not_imp.1 htakes
      obtain ⟨refusal, hrefusal⟩ := Option.ne_none_iff_exists'.1 hrefuses
      have hfull : refusal = .full :=
        Endpoint.eq_full_of_refusal? (by simpa [Store.Closed] using hopen) hrefusal
      refine .of_silenced (silences_iff.2 (.inr (.inr (.inl ?_)))) ?_ ?_
      · rw [hspeech.trace_eq, refusals_append, List.mem_append,
          Program.mem_refusals_broadcast hspeech.distinct, ← hfull]
        exact .inr ⟨n, hmid, Ne.symm hsender, hrefusal⟩
      · rw [haccepted, if_neg fun hboth => hrefuses hboth.2]
      · have hreg : Registered (log ++ moment.trace) n e :=
          registered_append.2 (.inl (h.books.registered_of_binds hb))
        exact (hafter.closed_or_binds hreg).resolve_right fun hb' => htakes (hbinds.1 hb')

/-! ### Moments in which nobody speaks -/

theorem kinds_of_silent (hd : moment.spoken? = none) :
    OfKinds [.create, .register, .remove, .drain, .close, .drop, .stop, .receive, .other]
      moment.trace := by
  obtain ⟨stage, time, move⟩ := moment
  have hnil : OfKinds [.create, .register, .remove, .drain, .close, .drop, .stop, .receive,
      .other] [] :=
    fun _ hm => absurd hm List.not_mem_nil
  cases move with
  | submit message =>
    unfold spoken? at hd
    dsimp only at hd
    split at hd
    · cases hd
    · rename_i refusal hrefusal
      exact (Program.submit_rejected hrefusal).mono (by decide)
  | openListener name =>
    exact (Program.within_openListener _ name).ofKinds.mono (by decide)
  | letGo listener =>
    simp only [trace, Stage.trace]
    split
    · exact (Program.within_letGo listener).ofKinds.mono (by decide)
    · exact hnil
  | openSession => exact (Session.within_start _ _).ofKinds.mono (by decide)
  | turn id =>
    cases hheard : stage.hub.heard? time id with
    | none =>
      simp only [trace, Stage.trace, Hub.turn_of_not_heard? hheard]
      exact hnil
    | some event =>
      obtain ⟨session, hsession, hover, hnext⟩ := Hub.session_of_heard? hheard
      rw [(turn_of_event hsession hover hnext).1]
      refine OfKinds.append (session.within_nextEvent.ofKinds.mono (by decide)) ?_
      refine (Session.within_handle ?_).ofKinds.mono (by decide)
      rintro message rfl
      unfold spoken? at hd
      dsimp only at hd
      rw [hsession, hheard] at hd
      exact Option.map_eq_none_iff.1 hd
  | dropOutbound id =>
    simp only [trace, Stage.trace]
    split
    · exact hnil
    · have hdrop : (Program.drop ‹Session›.endpoint).Within [.drop] :=
        Program.within_act (by simp)
      exact hdrop.ofKinds.mono (by decide)
  | shutDown => exact Program.within_shutDown.ofKinds.mono (by decide)
  | arrive id arrival => exact hnil
  | endInput id => exact hnil
  | read id => exact hnil

end Moment

/-! ### Letting go and stopping -/

namespace Program

variable {time : Timestamp} {store : Store}

theorem mem_drops_letGo (listener : Listener) :
    listener.endpoint ∈ drops ((letGo listener).trace time store) := by
  have hlast : ∀ store : Store, (⟨.drop listener.endpoint, ()⟩ : Event) ∈
      (close listener.endpoint >>= fun _ => drop listener.endpoint).trace time store := by
    intro store
    rw [close, trace_act_bind]
    exact List.mem_cons_of_mem _ (List.mem_singleton.2 rfl)
  refine mem_drops.2 ⟨⟨.drop listener.endpoint, ()⟩, ?_, rfl⟩
  unfold letGo
  by_cases henrolled : listener.enrolled = true
  · rw [if_pos henrolled, removeIfCurrent, trace_act_bind]
    exact List.mem_cons_of_mem _ (hlast _)
  · rw [if_neg henrolled]
    exact hlast store

theorem registry_closeAll (bindings : List Binding) :
    ((closeAll bindings).run time store).2.registry = store.registry := by
  induction bindings generalizing store with
  | nil => rfl
  | cons b rest ih =>
    rw [closeAll, close, run_act_bind]
    exact ih

theorem registry_shutDown : (shutDown.run time store).2.registry = .empty := by
  rw [shutDown, stop, run_act_bind, drain, run_act_bind]
  exact registry_closeAll _

end Program

namespace Moment

variable {moment : Moment} {log : List Event} {n : Name} {e : EndpointId}

/-- A moment that silences an endpoint, and in which nobody speaks, closes it. -/
theorem closed_of_silences (h : moment.stage.Sound log) (hd : moment.spoken? = none)
    (hb : moment.stage.hub.store.Binds n e) (hs : moment.silences n e = true) :
    moment.after.hub.store.Closed e := by
  have hafter : moment.after.Sound (log ++ moment.trace) := h.step moment.time moment.move
  have hreg : Registered log n e := h.books.registered_of_binds hb
  have hsettled : moment.after.hub.store.Closed e ∨ moment.after.hub.store.Binds n e :=
    hafter.closed_or_binds (registered_append.2 (.inl hreg))
  have hdrop : e ∈ drops moment.trace → moment.after.hub.store.Closed e := by
    obtain ⟨α, p, before, hrun⟩ := moment.exists_run
    intro hm
    rw [hrun.trace_eq] at hm
    rw [hrun.store_eq]
    exact Program.closed_of_mem_drops ((hrun.alike.has_iff e).2 (h.books.has_of_binds hb)) hm
  rcases silences_iff.1 hs with ⟨x, hx⟩ | hm | hfull | hends | hstop
  · exact hsettled.resolve_right (hafter.books.not_binds_of_newer hreg hx)
  · exact hdrop hm
  · rw [(kinds_of_silent hd).refusals_eq (by decide)] at hfull
    cases hfull
  · obtain ⟨stage, time, move⟩ := moment
    cases move with
    | letGo listener =>
      simp only [ends, Bool.and_eq_true, List.contains_iff_mem, beq_iff_eq] at hends
      obtain ⟨hl, rfl⟩ := hends
      refine hdrop ?_
      simp only [trace, Stage.trace, if_pos hl]
      exact Program.mem_drops_letGo listener
    | turn id =>
      obtain ⟨session, hsession, hover⟩ := (Option.any_eq_true _ _).1 hends
      simp only [Bool.and_eq_true, beq_iff_eq] at hover
      obtain ⟨rfl, hover⟩ := hover
      exact hsettled.resolve_right (hafter.not_binds_of_over (Stage.mem_sessions hsession) hover n)
    | _ => cases hends
  · obtain ⟨stage, time, move⟩ := moment
    cases hstop
    refine hsettled.resolve_right fun hb' => ?_
    have hempty : (after ⟨stage, time, .shutDown⟩).hub.store.registry = .empty :=
      Program.registry_shutDown
    rw [Store.Binds, hempty] at hb'
    cases hb'

/-- A run whose notes are about others leaves an endpoint in place unless somebody is registered
under its name. -/
theorem spared_of_isRun {α : Type} {ends : α → Multiset Note → Prop} {p : Program α}
    {before : Store} {own rest : Multiset Note} (hrun : moment.IsRun p before)
    (hb : moment.stage.hub.store.Binds n e) (hc : ¬moment.stage.hub.store.Closed e)
    (hfree : ∀ x, ¬Registered moment.trace n x) (hnone : refusals moment.trace = [])
    (hbooks : Books before log (own + rest)) (hk : p.Keeps ends own) (hharm : Harmless own e)
    (hwithin : p.Within
      [.create, .register, .deliver, .remove, .close, .drop, .receive, .now, .other]) :
    moment.after.hub.store.Binds n e ∧ ¬moment.after.hub.store.Closed e := by
  rw [hrun.trace_eq] at hfree hnone
  rw [hrun.store_eq]
  refine hbooks.spare_run moment.time hk hharm (hrun.alike.binds_iff.2 hb)
    (fun hc' => hc (hrun.alike.closed_iff.1 hc')) hfree (hwithin.ofKinds.not_swept (by decide))
    fun r hr => ?_
  rw [hnone] at hr
  cases hr

theorem harmless_of_owner {note : Note} {x : EndpointId} (ho : note.owned? = some x)
    (hne : x ≠ e) : Harmless (note ::ₘ 0) e := by
  rw [harmless_cons, ho]
  refine ⟨⟨fun heq => hne (Option.some.inj heq), ?_⟩, harmless_zero⟩
  rintro n rfl
  cases ho

theorem owner_ne_of_silent {stage : Stage} {time : Timestamp} {id : SessionId} {session : Session}
    (h : stage.Sound log) (hsession : stage.hub.session? id = some session) {event : Session.Event}
    (hheard : stage.hub.heard? time id = some event)
    (hd : spoken? ⟨stage, time, .turn id⟩ = none) (hreg : Registered log n e)
    (hends : ends e ⟨stage, time, .turn id⟩ ≠ true) : session.endpoint ≠ e := by
  obtain ⟨session', hsession', hover, hnext⟩ := Hub.session_of_heard? hheard
  rw [hsession] at hsession'
  cases hsession'
  have hmem := Stage.mem_sessions hsession
  cases event with
  | message message =>
    have hspeech : session.speech? stage.hub.settings.policy message = none := by
      unfold spoken? at hd
      dsimp only at hd
      rw [hsession, hheard] at hd
      exact Option.map_eq_none_iff.1 hd
    refine h.endpoint_ne_of_awaiting hmem ?_ hreg
    unfold Session.speech? at hspeech
    cases hs : session.state with
    | awaitingHello => rfl
    | active name =>
      rw [hs] at hspeech
      cases hspeech
    | closing name outcome => exact absurd hs (h.rests session hmem name outcome)
    | closed outcome =>
      unfold Session.isOver at hover
      rw [hs] at hover
      cases hover
  | ending ending =>
    rintro rfl
    refine hends ?_
    obtain ⟨_, _, hafter⟩ := turn_of_event hsession hover hnext
    unfold ends
    dsimp only
    rw [hafter, Option.any_some, beq_self_eq_true, Bool.true_and]
    exact Session.outcome_handle_ending hover (h.rests session hmem)

theorem spared_of_letGo {stage : Stage} {time : Timestamp} {listener : Listener}
    (h : stage.Sound log) (hl : listener ∈ stage.listeners) (hne : listener.endpoint ≠ e)
    (hb : stage.hub.store.Binds n e) (hc : ¬stage.hub.store.Closed e)
    (hfree : ∀ x, ¬Registered (trace ⟨stage, time, .letGo listener⟩) n x)
    (hnone : refusals (trace ⟨stage, time, .letGo listener⟩) = []) :
    (after ⟨stage, time, .letGo listener⟩).hub.store.Binds n e ∧
      ¬(after ⟨stage, time, .letGo listener⟩).hub.store.Closed e := by
  obtain ⟨rest, hn, _⟩ := Stage.exists_notes_of_listener hl
  have hbooks : Books stage.hub.store log (.parting ::ₘ listener.note ::ₘ 0 + rest) := by
    rw [Multiset.cons_add, Multiset.cons_add, zero_add, ← hn]
    exact h.books.add rfl trivial
  have hharm : Harmless (.parting ::ₘ listener.note ::ₘ 0) e :=
    harmless_cons.2 ⟨⟨by simp [Note.owned?], by simp⟩,
      harmless_of_owner listener.owned_note hne⟩
  exact spared_of_isRun (isRun_letGo time hl) hb hc hfree hnone hbooks
    (Program.keeps_letGo listener (.inl rfl)) hharm
    ((Program.within_letGo listener).mono (by decide))

theorem spared_of_turn {stage : Stage} {time : Timestamp} {id : SessionId} {session : Session}
    {hub : Hub} (h : stage.Sound log) (hsession : stage.hub.session? id = some session)
    (hover : session.isOver = false) (hturn : stage.hub.turn time id = some hub)
    (hne : session.endpoint ≠ e) (hb : stage.hub.store.Binds n e)
    (hc : ¬stage.hub.store.Closed e) (hfree : ∀ x, ¬Registered (trace ⟨stage, time, .turn id⟩) n x)
    (hnone : refusals (trace ⟨stage, time, .turn id⟩) = []) :
    (after ⟨stage, time, .turn id⟩).hub.store.Binds n e ∧
      ¬(after ⟨stage, time, .turn id⟩).hub.store.Closed e := by
  obtain ⟨rest, hn, _⟩ := Stage.exists_notes_of_session hsession
  have hbooks : Books stage.hub.store log (session.note ::ₘ 0 + rest) := by
    rw [Multiset.cons_add, zero_add, ← hn]
    exact h.books
  have hrests := h.rests session (Stage.mem_sessions hsession)
  exact spared_of_isRun (isRun_turn hsession hturn) hb hc hfree hnone hbooks
    (Session.keeps_turn _ session hrests hover) (harmless_of_owner session.owned_note hne)
    ((session.within_turn _).mono (by decide))

theorem spared_of_dropOutbound {stage : Stage} {time : Timestamp} {id : SessionId}
    {session : Session} (h : stage.Sound log) (hsession : stage.hub.session? id = some session)
    (hne : session.endpoint ≠ e) (hb : stage.hub.store.Binds n e)
    (hc : ¬stage.hub.store.Closed e) :
    (after ⟨stage, time, .dropOutbound id⟩).hub.store.Binds n e ∧
      ¬(after ⟨stage, time, .dropOutbound id⟩).hub.store.Closed e := by
  have hdrop : Action.drop session.endpoint ≠ .drop e := by
    intro heq
    cases heq
    exact hne rfl
  rw [(isRun_dropOutbound time hsession).store_eq, Program.drop, Program.run_act]
  exact ⟨Action.binds_perform hb (by simp) (by simp) (by simp),
    Action.open_perform (h.books.has_of_binds hb) hc (by simp) hdrop⟩

/-- A moment that does not silence an endpoint, and in which nobody speaks, leaves it in place. -/
theorem spared_of_silent (h : moment.stage.Sound log) (hd : moment.spoken? = none)
    (hb : moment.stage.hub.store.Binds n e) (hc : ¬moment.stage.hub.store.Closed e)
    (hs : moment.silences n e = false) :
    moment.after.hub.store.Binds n e ∧ ¬moment.after.hub.store.Closed e := by
  have hreg : Registered log n e := h.books.registered_of_binds hb
  rw [Bool.eq_false_iff, Ne, silences_iff] at hs
  simp only [not_or, not_exists] at hs
  obtain ⟨hfree, hdrop, _, hends, hstop⟩ := hs
  have hnone : refusals moment.trace = [] := (kinds_of_silent hd).refusals_eq (by decide)
  have hidle : moment.stage.hub.store.Alike moment.after.hub.store →
      moment.after.hub.store.Binds n e ∧ ¬moment.after.hub.store.Closed e :=
    fun ha => ⟨ha.binds_iff.2 hb, fun hc' => hc (ha.closed_iff.1 hc')⟩
  obtain ⟨stage, time, move⟩ := moment
  have hzero : Books stage.hub.store log (0 + stage.notes) := by
    rw [zero_add]
    exact h.books
  cases move with
  | submit message =>
    have hbooks : Books stage.hub.store log (.asking ::ₘ 0 + stage.notes) := by
      rw [Multiset.cons_add]
      exact hzero.add rfl trivial
    exact spared_of_isRun (isRun_submit stage time message) hb hc hfree hnone hbooks
      (Program.keeps_submit message)
      (harmless_cons.2 ⟨⟨by simp [Note.owned?], by simp⟩, harmless_zero⟩)
      ((Program.within_submit message).mono (by decide))
  | openListener name =>
    exact spared_of_isRun (isRun_openListener stage time name) hb hc hfree hnone hzero
      (Program.keeps_openListener _ name) harmless_zero
      ((Program.within_openListener _ name).mono (by decide))
  | letGo listener =>
    by_cases hl : listener ∈ stage.listeners
    · refine spared_of_letGo h hl ?_ hb hc hfree hnone
      rintro rfl
      refine hends ?_
      simp only [ends, Bool.and_eq_true, List.contains_iff_mem, beq_self_eq_true, and_true]
      exact hl
    · refine hidle ?_
      simp only [after, Stage.step, if_neg hl]
      exact .refl _
  | openSession =>
    have hbooks : Books stage.hub.store.newInbound.2 log (0 + stage.notes) :=
      hzero.alike (Store.alike_inbounds _ _)
    exact spared_of_isRun (isRun_openSession stage time) hb hc hfree hnone hbooks
      (Session.keeps_start _ _) harmless_zero ((Session.within_start _ _).mono (by decide))
  | turn id =>
    cases hheard : stage.hub.heard? time id with
    | none =>
      refine hidle ?_
      simp only [after, Stage.step, Hub.turn_of_not_heard? hheard, Option.getD_none]
      exact .refl _
    | some event =>
      obtain ⟨session, hsession, hover, hnext⟩ := Hub.session_of_heard? hheard
      have hne := owner_ne_of_silent h hsession hheard hd hreg hends
      exact spared_of_turn h hsession hover (Hub.turn_of_heard? hsession hover hnext) hne hb hc
        hfree hnone
  | dropOutbound id =>
    cases hsession : stage.hub.session? id with
    | none =>
      refine hidle ?_
      simp only [after, Stage.step, hsession]
      exact .refl _
    | some session =>
      refine spared_of_dropOutbound h hsession ?_ hb hc
      rintro rfl
      refine hdrop ?_
      rw [(isRun_dropOutbound time hsession).trace_eq]
      exact mem_drops.2 ⟨_, List.mem_singleton.2 rfl, rfl⟩
  | shutDown => exact absurd rfl hstop
  | arrive id arrival => exact hidle (Stage.alike_send _ _ _)
  | endInput id => exact hidle (Stage.alike_endInput _ _)
  | read id => exact hidle (Store.alike_read _ _)

/-- **What a moment means for an endpoint that is open and holds a name.** -/
theorem fate (h : moment.stage.Sound log) (hb : moment.stage.hub.store.Binds n e)
    (hc : ¬moment.stage.hub.store.Closed e) : moment.Fate n e := by
  cases hd : moment.spoken? with
  | some d => exact fate_of_spoken h hd hb hc
  | none =>
    have haccepted : accepted moment.trace e = [] :=
      (kinds_of_silent hd).accepted_eq (by decide) e
    cases hs : moment.silences n e with
    | true => exact .of_silenced hs haccepted (closed_of_silences h hd hb hs)
    | false =>
      obtain ⟨hb', hc'⟩ := spared_of_silent h hd hb hc hs
      refine .of_spared hs ?_ hb' hc'
      rw [haccepted, hd]
      rfl

end Moment

end BroadcastChat
