/-
# Sessions as state machines

Between two turns of a session anything may happen to the store, except that
somebody else registers its endpoint (`Undisturbed`). Then its endpoint is
unbound until its client is named and bound to nothing but that name afterwards
(`Session.Placed`), so that taking the name over closes exactly who held it, and
whatever its end is, the session leaves its endpoint closed and unbound and
everybody else's binding as it was.

Key definitions: `Undisturbed`, `Session.Placed`, `Action.OnRegistry`, `Turn.Regular`.
Key theorems: `Session.registrations_carryOut`, `Session.placed_of_mem`,
`Turn.closed_of_superseded`, `Turn.clean_of_ended`, `session_state_machine`.
-/
import BroadcastChat.Proofs.Life

namespace BroadcastChat

/-- Before each turn everything may have happened to the store, but that somebody registered the
session's endpoint; `before` is the store when the turns start. -/
def Undisturbed (policy : GreetingPolicy) : Store → List Turn → Prop
  | _, [] => True
  | before, turn :: rest =>
    (∀ n, turn.store.Binds n turn.session.endpoint → before.Binds n turn.session.endpoint) ∧
      Undisturbed policy (turn.storeAfter policy) rest

/-- Whether the action looks at the registry or changes it. -/
def Action.OnRegistry : Action → Prop
  | .register _ _ | .removeIfCurrent _ _ | .lookup _ | .snapshotExcept _ | .drain => True
  | _ => False

/-! ### Registrations -/

namespace Session

open Program

variable {time : Timestamp} {store : Store}

/-- The binding that a deed makes. -/
def Deed.binding? (endpoint : EndpointId) : Deed → Option Binding
  | .takeOver name => some (name, endpoint)
  | _ => none

theorem registrations_carryOut (endpoint : EndpointId) (deeds : List Deed) :
    registrations ((carryOut endpoint deeds).trace time store) =
      deeds.filterMap (Deed.binding? endpoint) := by
  induction deeds generalizing store with
  | nil => rfl
  | cons deed rest ih =>
    have hdeed : registrations ((deed.program endpoint).trace time store) =
        (deed.binding? endpoint).toList := by
      cases deed with
      | takeOver name => exact registrations_takeOver name endpoint
      | broadcast message =>
        have hwithin : ((Deed.broadcast message).program endpoint).Within
            [.deliver, .remove, .close, .now, .other] :=
          Within.bind (within_broadcast message) fun _ => within_pure
        exact hwithin.ofKinds.registrations_eq (by decide)
      | release name => rfl
      | finish => rfl
    rw [carryOut, trace_bind, registrations_append, hdeed, ih]
    cases hb : deed.binding? endpoint with
    | none => rw [List.filterMap_cons_none hb]; rfl
    | some binding => rw [List.filterMap_cons_some hb]; rfl

end Session

/-! ### Where the endpoint is bound -/

/-- The endpoint of a session whose client has no name yet is unbound, and that of a session whose
client has one holds no other name. -/
def Session.Placed (session : Session) (store : Store) : Prop :=
  (session.state = .awaitingHello ∧ ∀ n, ¬store.Binds n session.endpoint) ∨
    ∃ name, session.state = .active name ∧ ∀ n, store.Binds n session.endpoint → n = name

namespace Session.Placed

variable {session : Session} {store other : Store}

theorem rests (h : session.Placed store) : session.Rests := by
  rcases h with ⟨hs, _⟩ | ⟨name, hs, _⟩
  · exact rests_of_awaiting hs
  · exact rests_of_active hs

theorem not_over (h : session.Placed store) : session.isOver = false := by
  rcases h with ⟨hs, _⟩ | ⟨name, hs, _⟩
  · exact isOver_of_awaiting hs
  · exact isOver_of_active hs

/-- Nobody else registers the endpoint. -/
theorem mono (h : session.Placed store)
    (hu : ∀ n, other.Binds n session.endpoint → store.Binds n session.endpoint) :
    session.Placed other := by
  rcases h with ⟨hs, hfree⟩ | ⟨name, hs, hheld⟩
  · exact .inl ⟨hs, fun n hb => hfree n (hu n hb)⟩
  · exact .inr ⟨name, hs, fun n hb => hheld n (hu n hb)⟩

end Session.Placed

namespace Turn

variable {policy : GreetingPolicy} {turn : Turn}

theorem registered_trace {n : Name} {e : EndpointId} (h : Registered (turn.trace policy) n e) :
    ∃ hello, turn.found? = some (.message hello) ∧ turn.session.state = .awaitingHello ∧
      n = hello.sender ∧ e = turn.session.endpoint := by
  have hlooks : OfKinds [.receive, .other]
      (turn.session.nextEvent.trace turn.time turn.store) :=
    turn.session.within_nextEvent.ofKinds
  cases hf : turn.found? with
  | none =>
    rw [(after_of_none hf).2.2] at h
    exact absurd h (hlooks.not_registered (by decide) n e)
  | some event =>
    have hnext : (turn.session.nextEvent.run turn.time turn.store).1 = some event :=
      (Session.fst_run_nextEvent _ _ _).trans hf
    rw [trace, Session.trace_turn_of_event hnext, registered_append] at h
    obtain ⟨hello, rfl, hs, rfl, rfl⟩ :=
      Session.registered_handle (h.resolve_left (hlooks.not_registered (by decide) n e))
    exact ⟨hello, rfl, hs, rfl, rfl⟩

/-- Who is bound after a turn was bound before it, or it is the session that was named in it. -/
theorem binds_of_storeAfter {n : Name} {e : EndpointId} (h : (turn.storeAfter policy).Binds n e) :
    turn.store.Binds n e ∨ ∃ hello, turn.found? = some (.message hello) ∧
      turn.session.state = .awaitingHello ∧ n = hello.sender ∧ e = turn.session.endpoint :=
  (Program.binds_of_run h).imp_right registered_trace

theorem endpoint_after (h : turn.session.Placed turn.store) :
    (turn.after policy).endpoint = turn.session.endpoint := by
  cases hf : turn.found? with
  | none => rw [(after_of_none hf).1]
  | some event => rw [(after_of_some h.rests h.not_over hf).1]

/-- A turn after which the session goes on leaves its endpoint where it belongs. -/
theorem placed_after (h : turn.session.Placed turn.store)
    (hgoes : (turn.after policy).isOver = false) :
    (turn.after policy).Placed (turn.storeAfter policy) := by
  have hrests := h.rests
  have hover := h.not_over
  rcases h with ⟨hs, hfree⟩ | ⟨name, hs, hheld⟩
  · cases hf : turn.found? with
    | none =>
      rw [(after_of_none hf).1]
      refine .inl ⟨hs, fun n hb => ?_⟩
      rcases binds_of_storeAfter hb with hb | ⟨hello, hf', _⟩
      · exact hfree n hb
      · rw [hf] at hf'
        cases hf'
    | some event =>
      rw [(after_of_some hrests hover hf).1] at hgoes ⊢
      cases event with
      | message hello =>
        refine .inr ⟨hello.sender, ?_, fun n hb => ?_⟩
        · rw [hs]
          rfl
        · rcases binds_of_storeAfter hb with hb | ⟨hello', hf', _, rfl, _⟩
          · exact absurd hb (hfree n)
          · rw [hf] at hf'
            cases hf'
            rfl
      | ending ending =>
        rw [hs] at hgoes
        cases hgoes
  · have hstays : (turn.after policy).state = .active name ∧
        (turn.after policy).endpoint = turn.session.endpoint := by
      cases hf : turn.found? with
      | none =>
        rw [(after_of_none hf).1]
        exact ⟨hs, rfl⟩
      | some event =>
        rw [(after_of_some hrests hover hf).1] at hgoes ⊢
        rw [hs] at hgoes ⊢
        cases event with
        | message message => exact ⟨rfl, rfl⟩
        | ending ending => cases hgoes
    refine .inr ⟨name, hstays.1, fun n hb => ?_⟩
    rw [hstays.2] at hb
    rcases binds_of_storeAfter hb with hb | ⟨_, _, hawaiting, _⟩
    · exact hheld n hb
    · rw [hs] at hawaiting
      cases hawaiting

end Turn

/-- **In each of its turns a session finds its endpoint where it belongs.** -/
theorem Session.placed_of_mem {policy : GreetingPolicy} {session : Session} {before : Store}
    {rounds : List (Timestamp × Store)} (h : session.Placed before)
    (hu : Undisturbed policy before (session.life policy rounds)) :
    ∀ turn ∈ session.life policy rounds,
      turn.session.Placed turn.store ∧ turn.session.endpoint = session.endpoint := by
  induction rounds generalizing session before with
  | nil =>
    intro turn hm
    cases hm
  | cons round rounds ih =>
    obtain ⟨time, store⟩ := round
    rw [life_cons h.not_over] at hu ⊢
    have hnow : (⟨session, time, store⟩ : Turn).session.Placed
        (⟨session, time, store⟩ : Turn).store := h.mono hu.1
    intro turn hm
    rcases List.mem_cons.1 hm with rfl | hm
    · exact ⟨hnow, rfl⟩
    · have hsame : (Turn.after policy ⟨session, time, store⟩).endpoint = session.endpoint :=
        Turn.endpoint_after hnow
      cases hover : (Turn.after policy ⟨session, time, store⟩).isOver with
      | true =>
        rw [life_of_over hover] at hm
        cases hm
      | false =>
        have hlater := Turn.placed_after hnow hover
        obtain ⟨hplaced, hend⟩ := ih hlater hu.2 turn hm
        exact ⟨hplaced, hend.trans hsame⟩

/-! ### Taking over -/

theorem Store.closed_of_not_has {store : Store} {e : EndpointId} (h : ¬store.Has e) :
    store.Closed e := by
  rw [Store.Closed, Store.endpoint_of_not_has h]
  rfl

namespace Action

variable {time : Timestamp} {store : Store} {action : Action} {e : EndpointId}

/-- What is closed stays closed while nothing is made. -/
theorem closed_perform (h : action.kind ≠ .create) (hc : store.Closed e) :
    (action.perform time store).2.Closed e := by
  by_cases hh : store.Has e
  · exact closed_mono hh hc
  · exact Store.closed_of_not_has fun hh' => hh (has_of_perform h hh')

theorem closed_close (time : Timestamp) (store : Store) (e : EndpointId) :
    ((Action.close e).perform time store).2.Closed e := by
  by_cases hh : store.Has e
  · exact closed_of_drop_or_close hh (.inr rfl)
  · exact closed_perform (by simp) (Store.closed_of_not_has hh)

end Action

namespace Program

variable {α : Type} {p : Program α} {time : Timestamp} {store : Store}

theorem Within.closed_run {kinds : List Action.Kind} {e : EndpointId} (h : p.Within kinds)
    (hk : .create ∉ kinds) (hc : store.Closed e) : (p.run time store).2.Closed e := by
  induction p generalizing store with
  | done value => exact hc
  | step action next ih =>
    exact ih _ (h.2 _) (Action.closed_perform (fun heq => hk (heq ▸ h.1)) hc)

theorem closed_takeOver {name : Name} {endpoint e : EndpointId} (hb : store.Binds name e)
    (hne : e ≠ endpoint) : ((takeOver name endpoint).run time store).2.Closed e := by
  have hanswer : ((Action.register name endpoint).perform time store).1 = some e := by
    change (store.registry.lookup name).filter (· ≠ endpoint) = some e
    rw [show store.registry.lookup name = some e from hb]
    simp [hne]
  rw [takeOver, register, run_act_bind, hanswer]
  exact Action.closed_close time _ e

end Program

namespace Turn

variable {policy : GreetingPolicy} {turn : Turn}

/-- When a session takes its name over, whoever held it is closed. -/
theorem closed_of_superseded (h : turn.session.Placed turn.store) {n : Name} {e x : EndpointId}
    (hr : Registered (turn.trace policy) n e) (hb : turn.store.Binds n x) :
    (turn.storeAfter policy).Closed x := by
  obtain ⟨hello, hf, hs, rfl, rfl⟩ := registered_trace hr
  have hne : x ≠ turn.session.endpoint := by
    rintro rfl
    rcases h with ⟨_, hfree⟩ | ⟨name, hactive, _⟩
    · exact hfree _ hb
    · rw [hs] at hactive
      cases hactive
  have htaken : ((Program.takeOver hello.sender turn.session.endpoint).run turn.time
      turn.looked).2.Closed x :=
    Program.closed_takeOver (turn.alike_looked.binds_iff.2 hb) hne
  have hgreeting : (Session.carryOut turn.session.endpoint (Session.greeting policy hello)).Within
      [.deliver, .remove, .close, .now, .other] := by
    cases policy with
    | broadcast =>
      have hbroadcast : ((Session.Deed.broadcast hello).program turn.session.endpoint).Within
          [.deliver, .remove, .close, .now, .other] :=
        Program.Within.bind (Program.within_broadcast hello) fun _ => Program.within_pure
      exact hbroadcast.bind fun _ => Program.within_pure
    | registerOnly => exact Program.within_pure
  have hrun : ((Session.carryOut turn.session.endpoint
      (Session.deeds policy .awaitingHello (.message hello))).run turn.time turn.looked).2 =
      ((Session.carryOut turn.session.endpoint (Session.greeting policy hello)).run turn.time
        ((Program.takeOver hello.sender turn.session.endpoint).run turn.time
          turn.looked).2).2 := by
    rw [Session.deeds, Session.carryOut, Program.run_bind]
    rfl
  rw [(after_of_some h.rests h.not_over hf).2.1, hs, hrun]
  exact hgreeting.closed_run (by decide) htaken

/-! ### The end -/

/-- **Whatever its end is, a session leaves its endpoint closed and unbound and all other bindings
as it found them.** -/
theorem clean_of_ended (h : turn.session.Placed turn.store) {ending : Session.Ending}
    (hf : turn.found? = some (.ending ending)) :
    (turn.storeAfter policy).Closed turn.session.endpoint ∧
      ∀ n x, (turn.storeAfter policy).Binds n x ↔
        turn.store.Binds n x ∧ x ≠ turn.session.endpoint := by
  have halike := turn.alike_looked
  have hfinish : ∀ store : Store, ((Session.Deed.finish.program turn.session.endpoint).run
      turn.time store).2.Closed turn.session.endpoint := by
    intro store
    have hclosed := Action.closed_close turn.time store turn.session.endpoint
    have hwaited : ((Action.endWait turn.session.endpoint).perform turn.time
        ((Action.close turn.session.endpoint).perform turn.time store).2).2.Closed
          turn.session.endpoint := Action.closed_perform (by simp) hclosed
    exact hwaited
  rw [(after_of_some h.rests h.not_over hf).2.1]
  rcases h with ⟨hs, hfree⟩ | ⟨name, hs, hheld⟩
  · rw [hs]
    refine ⟨hfinish _, fun n x => ?_⟩
    have hsame : ((Session.carryOut turn.session.endpoint
        (Session.deeds policy .awaitingHello (.ending ending))).run turn.time
          turn.looked).2.Binds n x ↔ turn.looked.Binds n x := Iff.rfl
    rw [hsame, halike.binds_iff]
    refine ⟨fun hb => ⟨hb, ?_⟩, fun hb => hb.1⟩
    rintro rfl
    exact hfree n hb
  · rw [hs]
    refine ⟨hfinish _, fun n x => ?_⟩
    have hsame : ((Session.carryOut turn.session.endpoint
        (Session.deeds policy (.active name) (.ending ending))).run turn.time
          turn.looked).2.Binds n x ↔
        ((Action.removeIfCurrent name turn.session.endpoint).perform turn.time
          turn.looked).2.Binds n x := Iff.rfl
    rw [hsame, Books.binds_removeIfCurrent, halike.binds_iff]
    refine and_congr_right fun hb => not_congr ⟨fun heq => congrArg Prod.snd heq, ?_⟩
    rintro rfl
    rw [hheld n hb]

end Turn

/-! ### Before the first message -/

/-- A session that waits for its client does nothing to the registry and delivers nothing until the
first message comes, not even when it ends. -/
theorem Turn.silent_of_awaiting {policy : GreetingPolicy} {turn : Turn}
    (hs : turn.session.state = .awaitingHello)
    (hnone : ∀ hello, turn.found? ≠ some (.message hello)) {event : Event}
    (hm : event ∈ turn.trace policy) :
    ¬event.action.OnRegistry ∧ ∀ e d, event.action ≠ .deliver e d := by
  have hlooks : turn.session.nextEvent.Only fun action =>
      ¬action.OnRegistry ∧ ∀ e d, action ≠ .deliver e d := by
    refine turn.session.only_nextEvent.mono fun action hlooks => ?_
    rcases hlooks with rfl | rfl | rfl <;> exact ⟨fun h => h, by simp⟩
  have hdeeds : (Session.carryOut turn.session.endpoint (turn.deeds policy)).Only
      fun action => ¬action.OnRegistry ∧ ∀ e d, action ≠ .deliver e d := by
    cases hf : turn.found? with
    | none =>
      rw [deeds_of_none hf]
      exact Program.only_pure
    | some found =>
      rw [deeds_of_some hf, hs]
      cases found with
      | message hello => exact absurd hf (hnone hello)
      | ending ending =>
        refine Program.Only.bind ?_ fun _ => Program.only_pure
        exact Program.only_act_bind ⟨fun h => h, by simp⟩ fun _ =>
          ⟨⟨fun h => h, by simp⟩, fun _ => trivial⟩
  rw [trace_eq (Session.rests_of_awaiting hs) (Session.isOver_of_awaiting hs)] at hm
  rcases List.mem_append.1 hm with hm | hm
  · exact hlooks.of_mem_trace hm
  · exact hdeeds.of_mem_trace hm

/-! ### A whole life -/

/-- The registrations of a life are those of its deeds. -/
theorem registrations_of_placed {policy : GreetingPolicy} {endpoint : EndpointId}
    {life : List Turn}
    (h : ∀ turn ∈ life, turn.session.Placed turn.store ∧ turn.session.endpoint = endpoint) :
    registrations (life.flatMap (Turn.trace policy)) =
      (life.flatMap (Turn.deeds policy)).filterMap (Session.Deed.binding? endpoint) := by
  induction life with
  | nil => rfl
  | cons turn rest ih =>
    obtain ⟨hplaced, rfl⟩ := h turn List.mem_cons_self
    have hlooks : registrations (turn.session.nextEvent.trace turn.time turn.store) = [] :=
      turn.session.within_nextEvent.ofKinds.registrations_eq (by decide)
    rw [List.flatMap_cons, List.flatMap_cons, registrations_append, List.filterMap_append,
      ih fun other hm => h other (List.mem_cons_of_mem _ hm),
      Turn.trace_eq hplaced.rests hplaced.not_over, registrations_append, hlooks,
      List.nil_append, Session.registrations_carryOut]

theorem binding?_conduct (policy : GreetingPolicy) (endpoint : EndpointId)
    (messages : List Message) (ending? : Option Session.Ending) :
    (conduct policy messages ending?).filterMap (Session.Deed.binding? endpoint) =
      messages.head?.toList.map fun hello => (hello.sender, endpoint) := by
  cases messages with
  | nil => cases ending? <;> rfl
  | cons hello rest =>
    have hgreeting : (Session.greeting policy hello).filterMap
        (Session.Deed.binding? endpoint) = [] := by
      cases policy <;> rfl
    have hlater : (rest.map fun message => Session.Deed.broadcast
        ⟨hello.sender, message.body⟩).filterMap (Session.Deed.binding? endpoint) = [] := by
      rw [List.filterMap_map, List.filterMap_eq_nil_iff]
      exact fun _ _ => rfl
    have hparting : (parting hello.sender ending?).filterMap
        (Session.Deed.binding? endpoint) = [] := by
      cases ending? <;> rfl
    rw [conduct, List.filterMap_append, List.filterMap_append, List.filterMap_cons_some
      (show Session.Deed.binding? endpoint (.takeOver hello.sender) = some (hello.sender, endpoint)
        from rfl), hgreeting, hlater, hparting]
    rfl

/-- What each turn of a session is like in whose life these messages are found. -/
structure Turn.Regular (policy : GreetingPolicy) (session : Session) (messages : List Message)
    (turn : Turn) : Prop where
  endpoint_eq : turn.session.endpoint = session.endpoint
  /-- It finds what is most urgent. -/
  look_eq : (turn.session.nextEvent.run turn.time turn.store).1 = turn.found?
  /-- It is a look and then its deeds. -/
  trace_eq : turn.trace policy = turn.session.nextEvent.trace turn.time turn.store ++
    (Session.carryOut session.endpoint (turn.deeds policy)).trace turn.time turn.looked
  /-- Until its first message, a session does nothing to the registry and delivers nothing. -/
  silent : turn.session.state = .awaitingHello → (∀ hello, turn.found? ≠ some (.message hello)) →
    ∀ event ∈ turn.trace policy, ¬event.action.OnRegistry ∧ ∀ e d, event.action ≠ .deliver e d
  /-- Who is superseded is closed. -/
  superseded : ∀ n, Registered (turn.trace policy) n session.endpoint →
    ∀ x, turn.store.Binds n x → (turn.storeAfter policy).Closed x
  /-- An ending closes and unbinds the session's endpoint, and leaves all other bindings. -/
  ended : ∀ ending, turn.found? = some (.ending ending) →
    (turn.after policy).state = .closed (ending.outcome !messages.isEmpty) ∧
    (turn.storeAfter policy).Closed session.endpoint ∧
    ∀ n x, (turn.storeAfter policy).Binds n x ↔ turn.store.Binds n x ∧ x ≠ session.endpoint

/-- **A session is a state machine.** Start a session on a store in which its endpoint is unbound,
and let it find any stores in its turns, as long as nobody else registers its endpoint. What it
finds in each turn is the most urgent of the stop signal, the closure of its endpoint and what has
arrived: messages, and then perhaps an ending. It enters the states `itinerary` and no others, and
each turn is a look and then its deeds, all together `conduct`: it registers its endpoint once, for
the first message, and closes whoever it supersedes; until then it does nothing to the registry and
delivers nothing; and when it has ended, its outcome is that of the ending, its endpoint is closed
and unbound, and all other bindings are as it found them. -/
theorem session_state_machine (policy : GreetingPolicy) {session : Session} {before : Store}
    {rounds : List (Timestamp × Store)} (hs : session.state = .awaitingHello)
    (hfree : ∀ n, ¬before.Binds n session.endpoint)
    (hu : Undisturbed policy before (session.life policy rounds)) :
    ∃ (messages : List Message) (ending? : Option Session.Ending),
      (session.life policy rounds).filterMap Turn.found? = tidings messages ending? ∧
      (session.state :: (session.life policy rounds).flatMap (Turn.passes policy)).destutter
        (· ≠ ·) = itinerary messages ending? ∧
      (session.life policy rounds).flatMap (Turn.deeds policy) =
        conduct policy messages ending? ∧
      registrations ((session.life policy rounds).flatMap (Turn.trace policy)) =
        messages.head?.toList.map (fun hello => (hello.sender, session.endpoint)) ∧
      ∀ turn ∈ session.life policy rounds, turn.Regular policy session messages := by
  obtain ⟨messages, ending?, hfound, hpath, hdeeds, hends⟩ :=
    Session.life_of_awaiting policy hs rounds
  have hplaced := Session.placed_of_mem (.inl ⟨hs, hfree⟩) hu
  refine ⟨messages, ending?, hfound, ?_, hdeeds, ?_, fun turn hm => ?_⟩
  · rw [hs]
    exact hpath
  · rw [registrations_of_placed hplaced, hdeeds, binding?_conduct]
  · obtain ⟨hnow, hend⟩ := hplaced turn hm
    refine ⟨hend, Session.fst_run_nextEvent _ _ _, ?_, ?_, ?_, ?_⟩
    · rw [← hend]
      exact Turn.trace_eq hnow.rests hnow.not_over
    · exact fun hawaiting hnone event hmem => Turn.silent_of_awaiting hawaiting hnone hmem
    · rw [← hend]
      exact fun n hr x hb => Turn.closed_of_superseded hnow hr hb
    · rw [← hend]
      exact fun ending hending => ⟨hends turn hm ending hending, Turn.clean_of_ended hnow hending⟩

namespace Sample

/-- The store after some moves on a new hub. -/
def storeAfter (moves : List (Timestamp × Move)) : Store := ((Stage.new {}).run moves).hub.store

/-- Bob listens, and Alice connects and greets. -/
def arriving : List (Timestamp × Move) :=
  [(⟨0⟩, .openListener bob), (⟨1⟩, .openSession), (⟨2⟩, .arrive ⟨0⟩ (.message ⟨alice, .empty⟩))]

/-- What Alice's session finds: her greeting, a message in Bob's name, and that a listener has
taken her name over. -/
def evicting : List (Timestamp × Store) :=
  [(⟨3⟩, storeAfter arriving),
    (⟨5⟩, storeAfter (arriving ++ [(⟨3⟩, .turn ⟨0⟩),
      (⟨4⟩, .arrive ⟨0⟩ (.message ⟨bob, .empty⟩))])),
    (⟨7⟩, storeAfter (arriving ++ [(⟨3⟩, .turn ⟨0⟩), (⟨6⟩, .openListener alice)]))]

/-- Alice's session as it starts. -/
def newcomer : Session := ⟨⟨1⟩, ⟨0⟩, .awaitingHello⟩

end Sample

/-- What holds of all names in the list of bindings that an endpoint holds. -/
theorem Store.forall_binds {store : Store} {e : EndpointId} {motive : Name → Prop}
    (h : ∀ binding ∈ store.registry.bindings, binding.2 = e → motive binding.1) (n : Name)
    (hb : store.Binds n e) : motive n :=
  h (n, e) (Registry.mem_bindings_iff.2 hb) rfl

/-- Alice's session is named, relays her message under her name and is evicted; it registers once,
and the listener that evicted it keeps the name. -/
theorem session_state_machine_evicted :
    ∃ messages ending?,
      (Sample.newcomer.life .broadcast Sample.evicting).filterMap Turn.found? =
        tidings messages ending? ∧
      (Sample.newcomer.state :: (Sample.newcomer.life .broadcast Sample.evicting).flatMap
        (Turn.passes .broadcast)).destutter (· ≠ ·) = itinerary messages ending? ∧
      tidings messages ending? = [.message ⟨Sample.alice, .empty⟩, .message ⟨Sample.bob, .empty⟩,
        .ending .evicted] := by
  have hfree : ∀ n, ¬(Sample.storeAfter Sample.arriving).Binds n Sample.newcomer.endpoint :=
    Store.forall_binds (by decide)
  have hu : Undisturbed .broadcast (Sample.storeAfter Sample.arriving)
      (Sample.newcomer.life .broadcast Sample.evicting) := by
    exact ⟨Store.forall_binds (by decide), Store.forall_binds (by decide),
      Store.forall_binds (by decide), trivial⟩
  obtain ⟨messages, ending?, hfound, hpath, _⟩ := session_state_machine .broadcast rfl hfree hu
  exact ⟨messages, ending?, hfound, hpath, hfound.symm.trans (by decide)⟩

end BroadcastChat
