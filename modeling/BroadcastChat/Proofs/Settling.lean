/-
# Settling

After something was done to a hub on which no session had anything to do, the
sessions settle: they take turns, in any order, until none has anything to do
again. Every turn uses up work, so this comes to an end. Of two sessions that
can take a turn at most one is the actor; the other one only ends, so that the
two turns can come in either order, and all orders end on the same hub, but for
the time stamps of what was broadcast.

Key definitions: `Hub.turns`, `External`.
Key theorems: `Stage.Poised.work_turn`, `Stage.Poised.diamond`,
`Stage.Poised.confluent`, `settling_confluent`.
-/
import Mathlib.Algebra.GroupWithZero.Nat
import Mathlib.Algebra.Order.BigOperators.Group.List
import Mathlib.Algebra.Order.Group.Nat
import BroadcastChat.Proofs.Poise
import BroadcastChat.Proofs.Untimed

namespace BroadcastChat

/-! ### Sequences of turns -/

namespace Hub

variable {hub after : Hub} {time : Timestamp} {id : SessionId}

/-- The hub after these turns, if all of them can be taken. -/
def turns : List (Timestamp × SessionId) → Hub → Option Hub
  | [], hub => some hub
  | (time, id) :: rest, hub => (hub.turn time id).bind (turns rest)

theorem turns_cons {rest : List (Timestamp × SessionId)} {later : Hub}
    (h : hub.turns ((time, id) :: rest) = some later) :
    ∃ after, hub.turn time id = some after ∧ after.turns rest = some later :=
  Option.bind_eq_some_iff.1 h

theorem turns_cons_of_turn (h : hub.turn time id = some after)
    (rest : List (Timestamp × SessionId)) : hub.turns ((time, id) :: rest) = after.turns rest := by
  rw [turns, h, Option.bind_some]

/-- Whether there is anything to do has nothing to do with time stamps. -/
theorem Settled.congr {hub' : Hub} (h : hub.Settled time) (hsame : hub.untimed = hub'.untimed)
    (time' : Timestamp) : hub'.Settled time' := by
  intro id
  have hturn := turn_congr hsame time time' id
  rw [h id] at hturn
  exact Option.map_eq_none_iff.1 hturn.symm

/-- If no session comes first, none has anything to do. -/
theorem settled_of_first (h : hub.turnOfFirst time = none) : hub.Settled time := by
  refine settled_of_sessions fun index hlt => Option.isNone_iff_eq_none.2 ?_
  refine List.findSome?_eq_none_iff.1 h ⟨index⟩ ?_
  exact List.mem_map.2 ⟨index, List.mem_range.2 hlt, rfl⟩

/-! ### Work -/

theorem work_eq (hub : Hub) :
    hub.work = ((List.range hub.sessions.size).map fun index =>
      (hub.session? ⟨index⟩).elim 0 hub.turnsLeft).sum := by
  have hlist : hub.sessions.toList.map hub.turnsLeft =
      (List.range hub.sessions.size).map fun index =>
        (hub.session? ⟨index⟩).elim 0 hub.turnsLeft := by
    refine List.ext_getElem (by simp) fun i hi hi' => ?_
    have hlt : i < hub.sessions.size := by simpa using hi
    simp [session?, hlt]
  rw [work, hlist]
  rfl

/-- What is left on a stream that is read. -/
theorem inbound_receive (store : Store) (i : InboundId) :
    (store.updateInbound i fun _ => (store.inbound i).read.2).inbound i =
      (store.inbound i).read.2 := by
  unfold Store.inbound Store.updateInbound
  rw [Array.getElem?_modify, if_pos rfl]
  cases store.inbounds[i.index]? <;> rfl

/-- A session that has a message to handle takes it off its client's stream. -/
theorem arrivals_of_message {session : Session} {message : Message} {policy : GreetingPolicy}
    {store : Store} (h : (session.nextEvent.run time store).1 = some (.message message)) :
    (((session.handle policy (.message message)).run time
      (session.nextEvent.run time store).2).2.inbound session.inbound).arrivals.length + 1 =
        (store.inbound session.inbound).arrivals.length := by
  obtain ⟨hrunning, hopen⟩ := Session.open_of_not_ending (fun ending heq => by
    rw [h] at heq
    cases heq)
  have hunread : ((session.handle policy (.message message)).run time
      (session.nextEvent.run time store).2).2.inbound session.inbound =
      (session.nextEvent.run time store).2.inbound session.inbound :=
    Program.inbound_run fun _ hm =>
      (Session.only_handle_not_receive policy session (.message message)).of_mem_trace hm _
  rw [hunread]
  rw [(Session.nextEvent_open time hrunning hopen).1] at h ⊢
  rw [inbound_receive]
  generalize store.inbound session.inbound = inbound at h ⊢
  obtain ⟨arrivals, isOpen⟩ := inbound
  cases arrivals with
  | cons arrival rest => rfl
  | nil => cases isOpen <;> cases h

/-- A turn is one less for the session that takes it: a message is taken off its client's stream,
or the session ends. -/
theorem turnsLeft_turn {session turned : Session} (hrests : session.Rests)
    (hs : hub.session? id = some session) (hturn : hub.turn time id = some after)
    (ht : after.session? id = some turned) : after.turnsLeft turned < hub.turnsLeft session := by
  cases hheard : hub.heard? time id with
  | none =>
    rw [turn_of_not_heard? hheard] at hturn
    cases hturn
  | some event =>
    obtain ⟨session', hs', hover, hnext⟩ := session_of_heard? hheard
    cases hs.symm.trans hs'
    cases (turn_of_heard? hs hover hnext).symm.trans hturn
    cases (session?_setIfInBounds hs).symm.trans ht
    have hbefore : hub.turnsLeft session =
        (hub.store.inbound session.inbound).arrivals.length + 1 :=
      if_neg (by rw [hover]; exact Bool.false_ne_true)
    rw [hbefore, turnsLeft]
    split
    · exact Nat.succ_pos _
    · rename_i hrunning
      cases event with
      | ending ending => exact absurd (Session.outcome_handle_ending hover hrests) hrunning
      | message message => exact Nat.succ_lt_succ (Nat.lt_of_succ_le (arrivals_of_message hnext).le)

end Hub

namespace Stage.Poised

variable {stage : Stage} {actor id other : SessionId} {time time' : Timestamp} {after : Hub}

/-- A turn leaves every other session as much to do as before. -/
theorem turnsLeft_of_other (h : stage.Poised actor)
    (hturn : stage.hub.turn time id = some after) (hne : other ≠ id) :
    (after.session? other).elim 0 after.turnsLeft =
      (stage.hub.session? other).elim 0 stage.hub.turnsLeft := by
  have hindex : id.index ≠ other.index := fun heq => hne (congrArg SessionId.mk heq.symm)
  have hother : after.session? other = stage.hub.session? other := by
    obtain ⟨_, _, _, _, _, rfl⟩ := turn_eq_some hturn
    exact Array.getElem?_setIfInBounds_ne hindex
  rw [hother]
  cases ho : stage.hub.session? other with
  | none => rfl
  | some session =>
    have hstep : stage.step time (.turn id) = { stage with hub := after } := by
      simp only [Stage.step, hturn, Option.getD_some]
    have hmove : Move.turn id ≠ .turn other := fun heq => hne (Move.turn.inj heq).symm
    have hnobody : (Move.turn id).concerns? stage.hub ≠ some other := by simp [Move.concerns?]
    have hinbound := Moment.inbound_of_other ⟨stage, time, .turn id⟩ h.streams ho hnobody hmove
    rw [Moment.after, hstep] at hinbound
    dsimp only at hinbound
    rw [Option.elim_some, Option.elim_some, Hub.turnsLeft, Hub.turnsLeft, hinbound]

/-- **Every turn uses up work.** -/
theorem work_turn (h : stage.Poised actor) (hturn : stage.hub.turn time id = some after) :
    after.work < stage.hub.work := by
  obtain ⟨log, hsound⟩ := h.sound
  obtain ⟨session, turned, hs, _, _, hafter⟩ := turn_eq_some hturn
  have hsize : after.sessions.size = stage.hub.sessions.size := by
    rw [hafter]
    exact Array.size_setIfInBounds
  have hturned : after.session? id = some turned := by
    rw [hafter]
    exact Hub.session?_setIfInBounds hs
  have hless : after.turnsLeft turned < stage.hub.turnsLeft session :=
    Hub.turnsLeft_turn (hsound.rests session (mem_sessions hs)) hs hturn hturned
  rw [Hub.work_eq, Hub.work_eq, hsize]
  refine List.sum_lt_sum _ _ (fun index _ => ?_) ⟨id.index, ?_, ?_⟩
  · by_cases hid : (⟨index⟩ : SessionId) = id
    · rw [hid, hturned, hs]
      exact hless.le
    · exact (h.turnsLeft_of_other hturn hid).le
  · rw [List.mem_range]
    exact (Array.getElem?_eq_some_iff.1 hs).1
  · rw [hturned, hs]
    exact hless

/-- Turns come to an end: there are no more of them than there is work. -/
theorem length_le_work (h : stage.Poised actor) {turns : List (Timestamp × SessionId)}
    {later : Hub} (hturns : stage.hub.turns turns = some later) :
    turns.length + later.work ≤ stage.hub.work := by
  induction turns generalizing stage with
  | nil =>
    cases hturns
    exact (Nat.zero_add _).le
  | cons turn rest ih =>
    obtain ⟨after, hturn, hrest⟩ := Hub.turns_cons hturns
    have hwork := h.work_turn hturn
    have hle := ih (h.turn hturn) hrest
    rw [List.length_cons]
    change rest.length + later.work ≤ after.work at hle
    omega

theorem turns (h : stage.Poised actor) {turns : List (Timestamp × SessionId)} {later : Hub}
    (hturns : stage.hub.turns turns = some later) :
    ({ stage with hub := later } : Stage).Poised actor := by
  induction turns generalizing stage with
  | nil =>
    cases hturns
    exact h
  | cons turn rest ih =>
    obtain ⟨after, hturn, hrest⟩ := Hub.turns_cons hturns
    have hlater := ih (h.turn hturn) hrest
    exact hlater

/-- **Enough turns of whoever comes first settle the hub.** -/
theorem settleWithin (h : stage.Poised actor) (time : Timestamp) (count : Nat)
    (hwork : stage.hub.work ≤ count) :
    ∃ turns, stage.hub.turns turns = some (stage.hub.settleWithin time count) ∧
      (stage.hub.settleWithin time count).Settled time := by
  induction count generalizing stage with
  | zero =>
    refine ⟨[], rfl, fun id => ?_⟩
    cases hturn : stage.hub.turn time id with
    | none => exact hturn
    | some after =>
      have hless := h.work_turn hturn
      omega
  | succ count ih =>
    unfold Hub.settleWithin
    cases hfirst : stage.hub.turnOfFirst time with
    | none => exact ⟨[], rfl, Hub.settled_of_first hfirst⟩
    | some after =>
      obtain ⟨id, _, hturn⟩ := List.exists_of_findSome?_eq_some hfirst
      have hless := h.work_turn hturn
      obtain ⟨turns, hturns, hend⟩ := ih (h.turn hturn) (by dsimp only; omega)
      exact ⟨(time, id) :: turns, by rw [Hub.turns_cons_of_turn hturn]; exact hturns, hend⟩

/-! ### The order of turns -/

/-- **Two turns can come in either order**, since at most one of them is the actor's. -/
theorem diamond (h : stage.Poised actor) (hne : id ≠ other) {left right : Hub}
    (hleft : stage.hub.turn time id = some left)
    (hright : stage.hub.turn time' other = some right) :
    ∃ join, left.turn time' other = some join ∧ right.turn time id = some join := by
  obtain ⟨log, hsound⟩ := h.sound
  have hdoomed : ∀ {id other : SessionId} {time time' : Timestamp} {left right : Hub}, id ≠ other →
      other ≠ actor → stage.hub.turn time id = some left →
      stage.hub.turn time' other = some right →
      ∃ join, left.turn time' other = some join ∧ right.turn time id = some join := by
    intro id other time time' left right hne hother hleft hright
    obtain ⟨session, hends⟩ := h.doomed hother hright
    obtain ⟨turning, _, ht, _⟩ := turn_eq_some hleft
    have hendpoint : turning.endpoint ≠ session.endpoint := fun heq =>
      hne (hsound.session_unique hends.session_eq ht heq)
    obtain ⟨hstill, hafter⟩ := hends.turn_cutOff hne ht hendpoint hleft
    cases (hends.turn_eq time').symm.trans hright
    exact ⟨_, hstill.turn_eq time', hafter⟩
  by_cases hother : other = actor
  · obtain ⟨join, hjoin, hjoin'⟩ := hdoomed (Ne.symm hne) (fun heq => hne (heq.trans hother.symm))
      hright hleft
    exact ⟨join, hjoin', hjoin⟩
  · exact hdoomed hne hother hleft hright

/-- **All orders of turns end alike**, also from hubs that differ in time stamps only. -/
theorem confluent (h : stage.Poised actor) {hub later later' : Hub}
    {turns turns' : List (Timestamp × SessionId)} (hsame : stage.hub.untimed = hub.untimed)
    (hturns : stage.hub.turns turns = some later) (hend : later.Settled time)
    (hturns' : hub.turns turns' = some later') (hend' : later'.Settled time') :
    later.untimed = later'.untimed := by
  induction hwork : stage.hub.work using Nat.strongRecOn generalizing
    stage hub turns turns' later later' time time' with
  | ind work ih =>
    cases turns with
    | nil =>
      cases hturns
      cases turns' with
      | nil =>
        cases hturns'
        exact hsame
      | cons turn rest =>
        obtain ⟨after, hturn, _⟩ := Hub.turns_cons hturns'
        rw [hend.congr hsame turn.1 turn.2] at hturn
        cases hturn
    | cons turn rest =>
      obtain ⟨left, hleft, hrest⟩ := Hub.turns_cons hturns
      cases turns' with
      | nil =>
        cases hturns'
        rw [hend'.congr hsame.symm turn.1 turn.2] at hleft
        cases hleft
      | cons turn' rest' =>
        obtain ⟨after', hturn', hrest'⟩ := Hub.turns_cons hturns'
        -- the other hub's first turn can be taken here as well
        have hcongr := Hub.turn_congr hsame turn'.1 turn'.1 turn'.2
        rw [hturn', Option.map_some] at hcongr
        obtain ⟨right, hright, hsame'⟩ := Option.map_eq_some_iff.1 hcongr
        have hworkLeft := h.work_turn hleft
        have hworkRight := h.work_turn hright
        by_cases hid : turn.2 = turn'.2
        · have hboth : (stage.hub.turn turn.1 turn.2).map Hub.untimed =
              (stage.hub.turn turn'.1 turn.2).map Hub.untimed := Hub.turn_congr rfl _ _ _
          rw [hleft, hid, hright] at hboth
          have hsides : left.untimed = right.untimed := Option.some.inj hboth
          exact ih left.work (hwork ▸ hworkLeft) (h.turn hleft) (hsides.trans hsame') hrest hend
            hrest' hend' rfl
        · -- both go on to where the two turns meet, and from there to one end
          obtain ⟨join, hjoin, hjoin'⟩ := h.diamond hid hleft hright
          obtain ⟨more, hmore, hmoreEnd⟩ :=
            ((h.turn hleft).turn hjoin).settleWithin time join.work (Nat.le_refl _)
          have hfirst := ih left.work (hwork ▸ hworkLeft) (h.turn hleft) rfl hrest hend
            ((Hub.turns_cons_of_turn hjoin more).trans hmore) hmoreEnd rfl
          have hsecond := ih right.work (hwork ▸ hworkRight) (h.turn hright) hsame'
            ((Hub.turns_cons_of_turn hjoin' more).trans hmore) hmoreEnd hrest' hend' rfl
          exact hfirst.trans hsecond

end Stage.Poised

/-! ### What is done from outside -/

/-- What somebody does to a hub from outside: one move that is no turn, or whatever the client of
one session sends, the end of its stream included. -/
def External (moves : List (Timestamp × Move)) : Prop :=
  (∃ time move, moves = [(time, move)] ∧ ∀ id, move ≠ .turn id) ∨
    ∃ id, ∀ entry ∈ moves, (∃ arrival, entry.2 = .arrive id arrival) ∨ entry.2 = .endInput id

/-- Whatever is done from outside to a hub on which nobody has anything to do concerns one session
at most. -/
theorem Stage.exists_poised {stage : Stage} {action : List (Timestamp × Move)}
    (haction : External action) (h : ∀ actor, stage.Poised actor) :
    ∃ actor, (stage.run action).Poised actor := by
  rcases haction with ⟨time, move, rfl, _⟩ | ⟨actor, hall⟩
  · refine ⟨(move.concerns? stage.hub).getD ⟨0⟩, (h _).step time move fun id hid => ?_⟩
    rw [Option.mem_def.1 hid, Option.getD_some]
  · refine ⟨actor, ?_⟩
    have hpoised := h actor
    clear h
    induction action generalizing stage with
    | nil => exact hpoised
    | cons entry rest ih =>
      refine ih (fun other hm => hall other (List.mem_cons_of_mem _ hm))
        (hpoised.step entry.1 entry.2 fun id hid => ?_)
      rcases hall entry List.mem_cons_self with ⟨arrival, hentry⟩ | hentry
      · rw [hentry] at hid
        exact (Option.some.inj hid).symm
      · rw [hentry] at hid
        exact (Option.some.inj hid).symm

/-- **Settling is confluent and terminates.** After a run from a new hub, when no session has
anything to do, somebody does something from outside. Then the sessions can take turns, one event at
a time, in any order and at any times: there are never more turns than the hub has work, from
wherever they have got to they can go on until no session has anything to do, and wherever that is,
the hub is the same but for the time stamps of unread deliveries: it has the same bindings, queues,
closed ends, waits, streams and sessions as the hub on which whoever comes first takes each turn. -/
theorem settling_confluent (settings : HubSettings) (moves : List (Timestamp × Move))
    (time : Timestamp) (hsettled : ((Stage.new settings).run moves).hub.Settled time)
    (action : List (Timestamp × Move)) (haction : External action) (settleTime : Timestamp) :
    let hub := (((Stage.new settings).run moves).run action).hub
    let final := hub.settle settleTime
    (∃ turns, hub.turns turns = some final) ∧ (∀ time, final.Settled time) ∧
    ∀ turns later, hub.turns turns = some later →
      turns.length ≤ hub.work ∧
      (∃ more last, later.turns more = some last ∧ ∀ time, last.Settled time) ∧
      ∀ time, later.Settled time → later.untimed = final.untimed := by
  intro hub final
  have hpoised : ∀ actor, ((Stage.new settings).run moves).Poised actor :=
    Stage.Poised.of_settled (Stage.sound_run settings moves)
      (Stage.streams_run moves (Stage.streams_new settings)) (Stage.bare_run settings moves)
      hsettled
  obtain ⟨actor, h⟩ := Stage.exists_poised haction hpoised
  obtain ⟨turns, hturns, hend⟩ := h.settleWithin settleTime hub.work (Nat.le_refl _)
  refine ⟨⟨turns, hturns⟩, hend.congr rfl, fun turns' later hlater => ⟨?_, ?_, ?_⟩⟩
  · exact Nat.le_trans (Nat.le_add_right _ _) (h.length_le_work hlater)
  · obtain ⟨more, hmore, hlast⟩ := (h.turns hlater).settleWithin time later.work (Nat.le_refl _)
    exact ⟨more, _, hmore, hlast.congr rfl⟩
  · intro time' hsettled'
    exact h.confluent rfl hlater hsettled' hturns hend

namespace Sample

/-- Alice and Bob are connected, and somebody who has not said who it is. -/
def gathered : List (Timestamp × Move) :=
  [(⟨0⟩, .openSession), (⟨0⟩, .openSession), (⟨0⟩, .openSession),
    (⟨1⟩, .arrive ⟨0⟩ (.message ⟨alice, .empty⟩)), (⟨1⟩, .turn ⟨0⟩),
    (⟨2⟩, .arrive ⟨1⟩ (.message ⟨bob, .empty⟩)), (⟨2⟩, .turn ⟨1⟩)]

/-- The third client takes Alice's name over, and goes. -/
def passing : List (Timestamp × Move) :=
  [(⟨3⟩, .arrive ⟨2⟩ (.message ⟨alice, .empty⟩)), (⟨3⟩, .endInput ⟨2⟩)]

/-- The hub on which sessions are to take turns after that. -/
def unsettled : Hub := (((Stage.new {}).run gathered).run passing).hub

end Sample

/-- Whether the session that lost Alice's name notices before the new one ends or after it, the hub
is the same in the end, though Bob has an unread greeting of another time. -/
theorem settling_confluent_passing :
    let orders : List (List (Timestamp × SessionId)) :=
      [[(⟨4⟩, ⟨2⟩), (⟨5⟩, ⟨0⟩), (⟨6⟩, ⟨2⟩)], [(⟨7⟩, ⟨2⟩), (⟨8⟩, ⟨2⟩), (⟨9⟩, ⟨0⟩)]]
    ((Stage.new {}).run Sample.gathered).hub.Settled ⟨3⟩ ∧ External Sample.passing ∧
      (∀ turns ∈ orders, (Sample.unsettled.turns turns).isSome) ∧
      ∀ turns ∈ orders, ∀ later ∈ Sample.unsettled.turns turns,
        later.untimed = (Sample.unsettled.settle ⟨3⟩).untimed := by
  intro orders
  have hsettled : ((Stage.new {}).run Sample.gathered).hub.Settled ⟨3⟩ :=
    Hub.settled_of_sessions (by decide)
  have hexternal : External Sample.passing := .inr ⟨⟨2⟩, fun entry hm => by
    rcases List.mem_cons.1 hm with rfl | hm
    · exact .inl ⟨_, rfl⟩
    · exact .inr (List.mem_singleton.1 hm ▸ rfl)⟩
  have hends : ∀ turns ∈ orders, ∀ later ∈ Sample.unsettled.turns turns,
      ∀ index < later.sessions.size, (later.turn ⟨9⟩ ⟨index⟩).isNone := by decide
  obtain ⟨_, _, hall⟩ := settling_confluent {} _ _ hsettled _ hexternal ⟨3⟩
  refine ⟨hsettled, hexternal, by decide, fun turns hm later hlater => ?_⟩
  exact (hall turns later hlater).2.2 ⟨9⟩ (Hub.settled_of_sessions (hends turns hm later hlater))

end BroadcastChat
