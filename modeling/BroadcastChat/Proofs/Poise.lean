/-
# Who has something to do

When no session has anything to do, every session that runs waits for its
client on a hub that runs. What is then done from outside concerns the client
of one session at most (`Move.concerns?`), the actor. As long as only sessions
take turns after that, no other session finds anything on its client's stream
or has lost its own stream (`Stage.Poised`): what it may come to is an end, and
by then its endpoint holds no name.

Key definitions: `Move.concerns?`, `Stage.Poised`.
Key theorems: `Stage.Poised.of_settled`, `Stage.Poised.step`,
`Stage.Poised.turn`, `Stage.Poised.doomed`.
-/
import BroadcastChat.Proofs.Elsewhere
import BroadcastChat.Proofs.Holders
import BroadcastChat.Proofs.Stillness

namespace BroadcastChat

variable {stage : Stage} {log : List Event} {time : Timestamp} {move : Move}

/-- The session whose client does something in the move. -/
def Move.concerns? (hub : Hub) : Move → Option SessionId
  | .arrive id _ | .endInput id | .dropOutbound id => some id
  | .openSession => some ⟨hub.sessions.size⟩
  | _ => none

/-! ### What a move leaves alone -/

namespace Stage

theorem stopped_step (hmove : move ≠ .shutDown) :
    (stage.step time move).hub.store.stopped = stage.hub.store.stopped := by
  cases move with
  | submit message => exact (Program.within_submit message).stopped_eq (by decide)
  | openListener name => exact (Program.within_openListener _ name).stopped_eq (by decide)
  | letGo listener =>
    simp only [step]
    split
    · exact (Program.within_letGo listener).stopped_eq (by decide)
    · rfl
  | openSession =>
    have hstart : ((Session.start stage.hub.settings.capacity stage.hub.store.newInbound.1).run time
        stage.hub.store.newInbound.2).2.stopped = stage.hub.store.stopped :=
      (Session.within_start _ _).stopped_eq (by decide)
    exact hstart
  | arrive id arrival => exact (alike_send stage.hub id arrival).stopped_eq
  | endInput id => exact (alike_endInput stage.hub id).stopped_eq
  | turn id =>
    cases hturn : stage.hub.turn time id with
    | none => simp only [step, hturn, Option.getD_none]
    | some after =>
      obtain ⟨session, _, _, _, _, rfl⟩ := turn_eq_some hturn
      simp only [step, hturn, Option.getD_some]
      exact (session.within_turn _).stopped_eq (by decide)
  | read e => rfl
  | dropOutbound id =>
    simp only [step]
    split <;> rfl
  | shutDown => exact absurd rfl hmove

/-- On a hub that has stopped nobody is bound. -/
def Bare (stage : Stage) : Prop :=
  stage.hub.store.stopped = true → stage.hub.store.registry = .empty

theorem Bare.step (h : stage.Bare) (time : Timestamp) (move : Move) :
    (stage.step time move).Bare := by
  intro hafter
  by_cases hmove : move = .shutDown
  · subst hmove
    exact (still_shutDown stage time).empty
  · have hstopped : stage.hub.store.stopped = true := (stopped_step hmove).symm.trans hafter
    exact (Still.step ⟨hstopped, h hstopped⟩ time move).empty

theorem bare_run (settings : HubSettings) (moves : List (Timestamp × Move)) :
    ((new settings).run moves).Bare :=
  invariant_run (fun _ time move h => h.step time move) moves nofun

theorem Sound.session_unique (h : stage.Sound log) {id other : SessionId}
    {session turning : Session} (hs : stage.hub.session? id = some session)
    (ht : stage.hub.session? other = some turning) (heq : turning.endpoint = session.endpoint) :
    other = id := by
  have hnodup := (List.nodup_append.1 h.nodup_owners).1
  have hget : ∀ {id : SessionId} {session : Session}, stage.hub.session? id = some session →
      (stage.hub.sessions.toList.map (·.endpoint))[id.index]? = some session.endpoint := by
    intro id session hs
    rw [List.getElem?_map, Array.getElem?_toList]
    exact congrArg _ hs
  have hlt : other.index < (stage.hub.sessions.toList.map (·.endpoint)).length :=
    (List.getElem?_eq_some_iff.1 (hget ht)).1
  have hindex : other.index = id.index := by
    refine (List.getElem?_inj hlt hnodup).1 ?_
    rw [hget ht, hget hs, heq]
  cases other
  cases id
  cases hindex
  rfl

theorem size_sessions_step (hmove : move ≠ .openSession) :
    (stage.step time move).hub.sessions.size = stage.hub.sessions.size := by
  cases move with
  | openSession => exact absurd rfl hmove
  | letGo listener =>
    simp only [step]
    split <;> rfl
  | arrive id arrival => exact congrArg Array.size (sessions_send stage.hub id arrival)
  | endInput id => exact congrArg Array.size (sessions_endInput stage.hub id)
  | turn id =>
    cases hturn : stage.hub.turn time id with
    | none => simp only [step, hturn, Option.getD_none]
    | some after =>
      obtain ⟨_, turned, _, _, _, rfl⟩ := turn_eq_some hturn
      simp only [step, hturn, Option.getD_some, Array.size_setIfInBounds]
  | dropOutbound id =>
    simp only [step]
    split <;> rfl
  | _ => rfl

theorem exists_session_before {id : SessionId} {session : Session}
    (h : (stage.step time move).hub.session? id = some session)
    (hid : move.concerns? stage.hub ≠ some id) :
    ∃ old, stage.hub.session? id = some old := by
  have hlt : id.index < (stage.step time move).hub.sessions.size :=
    (Array.getElem?_eq_some_iff.1 h).1
  have hbefore : id.index < stage.hub.sessions.size := by
    by_cases hmove : move = .openSession
    · subst hmove
      have hsize : (stage.step time .openSession).hub.sessions.size =
          stage.hub.sessions.size + 1 := Array.size_push _
      have hne : stage.hub.sessions.size ≠ id.index :=
        fun heq => hid (congrArg (fun index => some (SessionId.mk index)) heq)
      omega
    · rwa [size_sessions_step hmove] at hlt
  exact ⟨_, Array.getElem?_eq_getElem hbefore⟩

end Stage

namespace Moment

variable (moment : Moment) {id : SessionId} {session : Session}

/-- The stream of a session is dropped by its client only. -/
theorem dropped_of_other (h : moment.stage.Sound log)
    (hs : moment.stage.hub.session? id = some session)
    (hid : moment.move.concerns? moment.stage.hub ≠ some id) :
    (moment.after.hub.store.endpoint session.endpoint).dropped =
      (moment.stage.hub.store.endpoint session.endpoint).dropped := by
  refine dropped_after moment (h.has_endpoint hs) fun hm => ?_
  rcases owner_of_mem_drops hm with ⟨listener, hl, _, heq⟩ | ⟨other, turning, hmove, ht, heq⟩
  · exact h.endpoint_ne (Stage.mem_sessions hs) hl heq.symm
  · rw [h.session_unique hs ht heq] at hmove
    rw [hmove] at hid
    exact hid rfl

/-- What a client sends is read by its own session and comes from nobody else. -/
theorem inbound_of_other (h : moment.stage.Streams)
    (hs : moment.stage.hub.session? id = some session)
    (hid : moment.move.concerns? moment.stage.hub ≠ some id) (hturn : moment.move ≠ .turn id) :
    moment.after.hub.store.inbound session.inbound =
      moment.stage.hub.store.inbound session.inbound := by
  have hreads : ¬moment.Reads session.inbound := by
    intro hread
    obtain ⟨other, turning, hmove, ht, heq, _⟩ := reader_of_receive hread
    exact hturn (h.unique ht hs heq ▸ hmove)
  obtain ⟨stage, time, move⟩ := moment
  have hother : ∀ {other turning}, stage.hub.session? other = some turning → other ≠ id →
      session.inbound ≠ turning.inbound := fun ht hne heq => hne (h.unique ht hs heq.symm)
  cases move with
  | submit message => exact arrivals_of_run (isRun_submit stage time message) hreads
  | openListener name => exact arrivals_of_run (isRun_openListener stage time name) hreads
  | letGo listener =>
    by_cases hl : listener ∈ stage.listeners
    · exact arrivals_of_run (isRun_letGo time hl) hreads
    · simp only [after, Stage.step, if_neg hl]
  | openSession =>
    refine (arrivals_of_run (isRun_openSession stage time) hreads).trans ?_
    have hlt : session.inbound.index < stage.hub.store.inbounds.size := by
      rw [h.index_eq hs, h.size_eq]
      exact (Array.getElem?_eq_some_iff.1 hs).1
    exact congrArg (·.getD .spent) ((Array.getElem?_push_lt hlt).trans
      (Array.getElem?_eq_getElem hlt).symm)
  | arrive other arrival =>
    have hne : other ≠ id := fun heq => hid (congrArg some heq)
    change (stage.hub.send other arrival).2.store.inbound session.inbound = _
    unfold Hub.send
    split
    · rfl
    · rename_i turning ht
      split
      · split
        · rfl
        · exact Store.inbound_updateInbound_of_ne _ (hother ht hne)
      · rfl
  | endInput other =>
    have hne : other ≠ id := fun heq => hid (congrArg some heq)
    change (stage.hub.endInput other).2.store.inbound session.inbound = _
    unfold Hub.endInput
    split
    · rfl
    · rename_i turning ht
      exact Store.inbound_updateInbound_of_ne _ (hother ht hne)
  | turn other =>
    cases hturned : stage.hub.turn time other with
    | none => simp only [after, Stage.step, hturned, Option.getD_none]
    | some hub =>
      obtain ⟨turning, _, ht, _⟩ := Stage.turn_eq_some hturned
      exact arrivals_of_run (isRun_turn ht hturned) hreads
  | read e => rfl
  | dropOutbound other =>
    change (Stage.step time stage (.dropOutbound other)).hub.store.inbound session.inbound = _
    simp only [Stage.step]
    split <;> rfl
  | shutDown =>
    exact arrivals_of_run (isRun_of_eq (p := Program.shutDown) (fun _ => rfl) rfl rfl) hreads

end Moment

/-! ### Poise -/

namespace Stage

/-- Nobody but the actor has anything on its client's stream or has lost its own. -/
structure Poised (stage : Stage) (actor : SessionId) : Prop where
  sound : ∃ log, stage.Sound log
  streams : stage.Streams
  bare : stage.Bare
  calm : ∀ id session, id ≠ actor → stage.hub.session? id = some session →
    session.isOver = false → (stage.hub.store.endpoint session.endpoint).dropped = false ∧
      stage.hub.store.inbound session.inbound = .new

/-- When no session has anything to do, whoever runs waits for its client. -/
theorem Poised.of_settled (hsound : stage.Sound log) (hstreams : stage.Streams)
    (hbare : stage.Bare) (hsettled : stage.hub.Settled time) (actor : SessionId) :
    stage.Poised actor where
  sound := ⟨log, hsound⟩
  streams := hstreams
  bare := hbare
  calm id session _ hs hover := by
    obtain ⟨hrunning, hopen⟩ := hsettled.open_of_mem (mem_sessions hs) hover
    refine ⟨Store.dropped_of_open hopen, ?_⟩
    have hnothing : (session.nextEvent.run time stage.hub.store).1 = none := by
      cases hnext : (session.nextEvent.run time stage.hub.store).1 with
      | none => rfl
      | some event =>
        have hturn := Hub.turn_of_heard? hs hover hnext
        rw [hsettled id] at hturn
        cases hturn
    rw [(Session.nextEvent_open time hrunning hopen).1] at hnothing
    generalize stage.hub.store.inbound session.inbound = inbound at hnothing ⊢
    obtain ⟨arrivals, isOpen⟩ := inbound
    cases arrivals with
    | cons arrival rest => cases hnothing
    | nil =>
      cases isOpen with
      | false => cases hnothing
      | true => rfl

namespace Poised

variable {actor id other : SessionId} {session : Session} {after : Hub}

/-- A session that is not the actor takes a turn only to end, and its endpoint holds no name. -/
theorem doomed (h : stage.Poised actor) (hid : id ≠ actor)
    (hturn : stage.hub.turn time id = some after) :
    ∃ session, stage.hub.Doomed id session := by
  obtain ⟨log, hsound⟩ := h.sound
  obtain ⟨session, turned, hs, hover, hrun, _⟩ := turn_eq_some hturn
  obtain ⟨hkept, hinbound⟩ := h.calm id session hid hs hover
  have hends : stage.hub.store.stopped = true ∨ stage.hub.store.Closed session.endpoint := by
    by_contra hno
    rw [not_or, Bool.not_eq_true] at hno
    have hnext : (session.nextEvent.run time stage.hub.store).1 = none := by
      rw [(Session.nextEvent_open time hno.1 hno.2).1, hinbound]
      rfl
    rw [Session.run_turn_of_none hnext] at hrun
    cases hrun
  refine ⟨session, hs, hover, hsound.rests session (mem_sessions hs), hsound.has_endpoint hs, ?_,
    hends⟩
  intro n hb
  rcases hends with hs | hc
  · rw [Store.Binds, h.bare hs] at hb
    cases hb
  · exact hsound.books.open_of_binds hb hkept hc

/-- **Poise is kept** in every turn, and in every other move that concerns nobody but the actor. -/
theorem step (h : stage.Poised actor) (time : Timestamp) (move : Move)
    (hmove : ∀ id ∈ move.concerns? stage.hub, id = actor) :
    (stage.step time move).Poised actor where
  sound := by
    obtain ⟨log, hsound⟩ := h.sound
    exact ⟨_, hsound.step time move⟩
  streams := h.streams.step time move
  bare := h.bare.step time move
  calm id session hid hs hover := by
    obtain ⟨log, hsound⟩ := h.sound
    have hconcerns : move.concerns? stage.hub ≠ some id := fun heq => hid (hmove id heq)
    obtain ⟨old, hold⟩ := exists_session_before hs hconcerns
    by_cases hturn : move = .turn id
    · -- a session that takes its turn has ended
      subst hturn
      cases hturned : stage.hub.turn time id with
      | none =>
        simp only [Stage.step, hturned, Option.getD_none] at hs ⊢
        exact h.calm id session hid hs hover
      | some after =>
        obtain ⟨session', hdoomed⟩ := h.doomed hid hturned
        simp only [Stage.step, hdoomed.turn_eq time, Option.getD_some] at hs
        have hended : (stage.hub.cutOff id session').session? id =
            some (session'.cutOff stage.hub.store) := Hub.session?_setIfInBounds hdoomed.session_eq
        cases hended.symm.trans hs
        cases hover
    · rw [session_step_of_ne hold time hturn] at hs
      cases hs
      obtain ⟨hkept, hinbound⟩ := h.calm id session hid hold hover
      exact ⟨(Moment.dropped_of_other ⟨stage, time, move⟩ hsound hold hconcerns).trans hkept,
        (Moment.inbound_of_other ⟨stage, time, move⟩ h.streams hold hconcerns hturn).trans
          hinbound⟩

theorem turn (h : stage.Poised actor) (hturn : stage.hub.turn time id = some after) :
    ({ stage with hub := after } : Stage).Poised actor := by
  have hstep := h.step time (.turn id) (by simp [Move.concerns?])
  simp only [Stage.step, hturn, Option.getD_some] at hstep
  exact hstep

end Poised

end Stage

end BroadcastChat
