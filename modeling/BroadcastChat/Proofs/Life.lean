/-
# The life of one session

A session is a state machine that shares the store with everybody else. What a
turn of it does depends on where it stands and on what it finds in the store, and
on nothing else. So its life is decided by what it finds in one turn after the
other: messages, and at the end perhaps an ending. It goes through the states
that these give (`itinerary`) and does the deeds that they give (`conduct`),
whatever the others do in between.

Key definitions: `Turn`, `Session.life`, `tidings`, `itinerary`, `conduct`.
Key theorems: `Turn.after_of_some`, `Turn.trace_eq`, `Session.life_of_active`,
`Session.life_of_awaiting`.
-/
import Mathlib.Data.List.Destutter
import BroadcastChat.Proofs.Deeds

namespace BroadcastChat

/-- A turn of a session: when it is, and the store as the session finds it. -/
structure Turn where
  session : Session
  time : Timestamp
  store : Store

namespace Turn

variable (policy : GreetingPolicy) (turn : Turn)

/-- What the session finds. -/
def found? : Option Session.Event := turn.session.found? turn.store

/-- The store when the session has looked. -/
def looked : Store := (turn.session.nextEvent.run turn.time turn.store).2

/-- The session after the turn. -/
def after : Session :=
  ((turn.session.turn policy).run turn.time turn.store).1.getD turn.session

/-- The store after the turn. -/
def storeAfter : Store := ((turn.session.turn policy).run turn.time turn.store).2

/-- What the session does to the store. -/
def trace : List Event := (turn.session.turn policy).trace turn.time turn.store

/-- What the session does about what it found. -/
def deeds : List Session.Deed :=
  (turn.found?.map (Session.deeds policy turn.session.state)).getD []

/-- The states that the session enters, one after the other. -/
def passes : List Session.State :=
  match turn.found? with
  | none => []
  | some event =>
    let entered := (turn.session.onEvent policy event).run turn.time turn.looked
    let released := (turn.session.release entered.1).run turn.time entered.2
    let finished := (turn.session.finish released.1).run turn.time released.2
    [entered.1, released.1, finished.1]

end Turn

/-- The turns of a session until it is over, when it finds these stores at these times. -/
def Session.life (policy : GreetingPolicy) : Session → List (Timestamp × Store) → List Turn
  | _, [] => []
  | session, (time, store) :: rest =>
    if session.isOver then []
    else ⟨session, time, store⟩ :: life policy (Turn.after policy ⟨session, time, store⟩) rest

/-! ### What a life should be -/

/-- What a session finds to which these messages come and which has this end, if any. -/
def tidings (messages : List Message) (ending? : Option Session.Ending) : List Session.Event :=
  messages.map Session.Event.message ++ (ending?.map Session.Event.ending).toList

/-- The states in which the end of a named session takes it. -/
def farewell (name : Name) : Option Session.Ending → List Session.State
  | none => []
  | some ending => [.closing name (ending.outcome true), .closed (ending.outcome true)]

/-- The states of a session to which these messages come and which has this end, if any. -/
def itinerary : List Message → Option Session.Ending → List Session.State
  | [], none => [.awaitingHello]
  | [], some ending => [.awaitingHello, .closed (ending.outcome false)]
  | hello :: _, ending? =>
    .awaitingHello :: .active hello.sender :: farewell hello.sender ending?

/-- What a named session does at its end. -/
def parting (name : Name) : Option Session.Ending → List Session.Deed
  | none => []
  | some _ => [.release name, .finish]

/-- The deeds of a session to which these messages come and which has this end, if any. -/
def conduct (policy : GreetingPolicy) :
    List Message → Option Session.Ending → List Session.Deed
  | [], none => []
  | [], some _ => [.finish]
  | hello :: rest, ending? =>
    .takeOver hello.sender :: Session.greeting policy hello ++
      rest.map (fun message => .broadcast ⟨hello.sender, message.body⟩) ++
      parting hello.sender ending?

/-! ### One turn -/

namespace Turn

variable {policy : GreetingPolicy} {turn : Turn} {event : Session.Event}

theorem after_of_none (h : turn.found? = none) :
    turn.after policy = turn.session ∧ turn.storeAfter policy = turn.looked ∧
      turn.trace policy = turn.session.nextEvent.trace turn.time turn.store := by
  have hnext : (turn.session.nextEvent.run turn.time turn.store).1 = none :=
    (Session.fst_run_nextEvent _ _ _).trans h
  refine ⟨?_, ?_, ?_⟩
  · rw [after, Session.run_turn_of_none hnext]
    rfl
  · rw [storeAfter, Session.turn, Program.run_bind, hnext]
    rfl
  · rw [trace, Session.turn, Program.trace_bind, hnext]
    exact List.append_nil _

theorem after_of_some (hrests : turn.session.Rests) (hover : turn.session.isOver = false)
    (h : turn.found? = some event) :
    turn.after policy = { turn.session with state := turn.session.state.next event } ∧
      turn.storeAfter policy = ((Session.carryOut turn.session.endpoint
        (Session.deeds policy turn.session.state event)).run turn.time turn.looked).2 ∧
      turn.trace policy = turn.session.nextEvent.trace turn.time turn.store ++
        (Session.carryOut turn.session.endpoint
          (Session.deeds policy turn.session.state event)).trace turn.time turn.looked := by
  have hnext : (turn.session.nextEvent.run turn.time turn.store).1 = some event :=
    (Session.fst_run_nextEvent _ _ _).trans h
  have hhandle : (turn.session.handle policy event).run turn.time turn.looked =
      (turn.session.state.next event, ((Session.carryOut turn.session.endpoint
        (Session.deeds policy turn.session.state event)).run turn.time turn.looked).2) :=
    Session.run_handle hrests hover event
  rw [looked] at hhandle ⊢
  refine ⟨?_, ?_, ?_⟩
  · rw [after, Session.run_turn_of_event hnext, hhandle]
    rfl
  · rw [storeAfter, Session.run_turn_of_event hnext, hhandle]
  · rw [trace, Session.trace_turn_of_event hnext, Session.trace_handle hrests hover]

theorem deeds_of_some (h : turn.found? = some event) :
    turn.deeds policy = Session.deeds policy turn.session.state event := by
  rw [deeds, h]
  rfl

theorem deeds_of_none (h : turn.found? = none) : turn.deeds policy = [] := by
  rw [deeds, h]
  rfl

/-- Every turn is a look followed by its deeds. -/
theorem trace_eq (hrests : turn.session.Rests) (hover : turn.session.isOver = false) :
    turn.trace policy = turn.session.nextEvent.trace turn.time turn.store ++
      (Session.carryOut turn.session.endpoint (turn.deeds policy)).trace turn.time
        turn.looked := by
  cases hf : turn.found? with
  | none =>
    rw [(after_of_none hf).2.2, deeds_of_none hf]
    exact (List.append_nil _).symm
  | some event => rw [(after_of_some hrests hover hf).2.2, deeds_of_some hf]

/-- Looking leaves the registry alone and closes nobody. -/
theorem alike_looked (turn : Turn) : turn.store.Alike turn.looked :=
  turn.session.within_nextEvent.alike turn.time turn.store

theorem passes_of_none (h : turn.found? = none) : turn.passes policy = [] := by
  rw [passes, h]

theorem passes_of_ending {name : Name} {ending : Session.Ending}
    (hs : turn.session.state = .active name) (h : turn.found? = some (.ending ending)) :
    turn.passes policy = [.closing name (ending.outcome true), .closed (ending.outcome true),
      .closed (ending.outcome true)] := by
  rw [passes, h]
  simp only [Session.onEvent, hs]
  rfl

theorem passes_of_message {name : Name} {message : Message}
    (hs : turn.session.state = .active name) (h : turn.found? = some (.message message)) :
    turn.passes policy = [.active name, .active name, .active name] := by
  rw [passes, h]
  simp only [Session.onEvent, hs, Program.run_bind, Program.run_pure, Session.release,
    Session.finish]

theorem passes_of_hello {hello : Message} (hs : turn.session.state = .awaitingHello)
    (h : turn.found? = some (.message hello)) :
    turn.passes policy = [.active hello.sender, .active hello.sender, .active hello.sender] := by
  rw [passes, h]
  cases policy <;> simp only [Session.onEvent, hs, Session.greet, Program.run_bind,
    Program.run_pure, Session.release, Session.finish]

theorem passes_of_stale {ending : Session.Ending} (hs : turn.session.state = .awaitingHello)
    (h : turn.found? = some (.ending ending)) :
    turn.passes policy = [.closed (ending.outcome false), .closed (ending.outcome false),
      .closed (ending.outcome false)] := by
  rw [passes, h]
  simp only [Session.onEvent, hs]
  rfl

end Turn

/-! ### A whole life -/

namespace Session

variable {policy : GreetingPolicy} {session : Session} {rounds : List (Timestamp × Store)}
  {time : Timestamp} {store : Store}

theorem life_of_over (h : session.isOver = true) : session.life policy rounds = [] := by
  cases rounds with
  | nil => rfl
  | cons round rest => rw [life, if_pos h]

theorem life_cons (h : session.isOver = false) :
    session.life policy ((time, store) :: rounds) =
      ⟨session, time, store⟩ ::
        (Turn.after policy ⟨session, time, store⟩).life policy rounds := by
  rw [life, if_neg (by simp [h])]

theorem ends_cons {turn : Turn} {turns : List Turn} {outcome : Ending → Outcome}
    (hne : ∀ ending, turn.found? ≠ some (.ending ending))
    (hends : ∀ later ∈ turns, ∀ ending, later.found? = some (.ending ending) →
      (later.after policy).state = .closed (outcome ending)) :
    ∀ later ∈ turn :: turns, ∀ ending, later.found? = some (.ending ending) →
      (later.after policy).state = .closed (outcome ending) := by
  intro later hm ending hending
  rcases List.mem_cons.1 hm with rfl | hm
  · exact absurd hending (hne ending)
  · exact hends later hm ending hending

/-- A turn that finds the ending closes the session with its outcome, and is the last one. -/
theorem ends_singleton {turn : Turn} {ending : Ending} {outcome : Ending → Outcome}
    (hf : turn.found? = some (.ending ending))
    (hclosed : (turn.after policy).state = .closed (outcome ending)) :
    ∀ last ∈ [turn], ∀ other, last.found? = some (.ending other) →
      (last.after policy).state = .closed (outcome other) := by
  intro last hm other hother
  rw [List.mem_singleton.1 hm] at hother ⊢
  cases hf.symm.trans hother
  exact hclosed

/-- What happens to a session that has been named. -/
theorem life_of_active {name : Name} (hs : session.state = .active name)
    (rounds : List (Timestamp × Store)) :
    ∃ (messages : List Message) (ending? : Option Ending),
      (session.life policy rounds).filterMap Turn.found? = tidings messages ending? ∧
      ((session.life policy rounds).flatMap (Turn.passes policy)).destutter' (· ≠ ·)
        (.active name) = .active name :: farewell name ending? ∧
      (session.life policy rounds).flatMap (Turn.deeds policy) =
        messages.map (fun message => .broadcast ⟨name, message.body⟩) ++ parting name ending? ∧
      ∀ turn ∈ session.life policy rounds, ∀ ending, turn.found? = some (.ending ending) →
        (turn.after policy).state = .closed (ending.outcome true) := by
  induction rounds generalizing session with
  | nil => exact ⟨[], none, rfl, rfl, rfl, fun _ hm => by cases hm⟩
  | cons round rounds ih =>
    obtain ⟨time, store⟩ := round
    have hover := isOver_of_active hs
    have hrests := rests_of_active hs
    rw [life_cons hover, List.flatMap_cons, List.flatMap_cons]
    cases hf : Turn.found? ⟨session, time, store⟩ with
    | none =>
      rw [(Turn.after_of_none hf).1, List.filterMap_cons_none hf, Turn.passes_of_none hf,
        Turn.deeds_of_none hf]
      obtain ⟨messages, ending?, hfound, hpath, hdeeds, hends⟩ := ih hs
      exact ⟨messages, ending?, hfound, hpath, hdeeds, ends_cons (by simp [hf]) hends⟩
    | some event =>
      have hafter : Turn.after policy ⟨session, time, store⟩ =
          { session with state := session.state.next event } :=
        (Turn.after_of_some hrests hover hf).1
      rw [hafter, List.filterMap_cons_some hf, Turn.deeds_of_some hf]
      cases event with
      | message message =>
        have hactive : ({ session with state := session.state.next (.message message) } :
            Session).state = .active name := by
          rw [hs]
          rfl
        obtain ⟨messages, ending?, hfound, hpath, hdeeds, hends⟩ := ih hactive
        refine ⟨message :: messages, ending?, ?_, ?_, ?_, ends_cons (by simp [hf]) hends⟩
        · rw [hfound]
          rfl
        · rw [Turn.passes_of_message hs hf, List.cons_append, List.cons_append, List.cons_append,
            List.nil_append, List.destutter'_cons_neg _ (by simp),
            List.destutter'_cons_neg _ (by simp), List.destutter'_cons_neg _ (by simp), hpath]
        · rw [hdeeds, hs]
          rfl
      | ending ending =>
        rw [life_of_over (by rw [hs]; rfl), Turn.passes_of_ending hs hf]
        refine ⟨[], some ending, rfl, ?_, by rw [hs]; rfl, ends_singleton hf ?_⟩
        · simp [farewell]
        · rw [hafter, hs]
          rfl

/-- **What happens to a session from its start on.** -/
theorem life_of_awaiting (policy : GreetingPolicy) (hs : session.state = .awaitingHello)
    (rounds : List (Timestamp × Store)) :
    ∃ (messages : List Message) (ending? : Option Ending),
      (session.life policy rounds).filterMap Turn.found? = tidings messages ending? ∧
      ((session.life policy rounds).flatMap (Turn.passes policy)).destutter' (· ≠ ·)
        .awaitingHello = itinerary messages ending? ∧
      (session.life policy rounds).flatMap (Turn.deeds policy) =
        conduct policy messages ending? ∧
      ∀ turn ∈ session.life policy rounds, ∀ ending, turn.found? = some (.ending ending) →
        (turn.after policy).state = .closed (ending.outcome !messages.isEmpty) := by
  induction rounds generalizing session with
  | nil => exact ⟨[], none, rfl, rfl, rfl, fun _ hm => by cases hm⟩
  | cons round rounds ih =>
    obtain ⟨time, store⟩ := round
    have hover := isOver_of_awaiting hs
    have hrests := rests_of_awaiting hs
    rw [life_cons hover, List.flatMap_cons, List.flatMap_cons]
    cases hf : Turn.found? ⟨session, time, store⟩ with
    | none =>
      rw [(Turn.after_of_none hf).1, List.filterMap_cons_none hf, Turn.passes_of_none hf,
        Turn.deeds_of_none hf]
      obtain ⟨messages, ending?, hfound, hpath, hdeeds, hends⟩ := ih hs
      exact ⟨messages, ending?, hfound, hpath, hdeeds, ends_cons (by simp [hf]) hends⟩
    | some event =>
      have hafter : Turn.after policy ⟨session, time, store⟩ =
          { session with state := session.state.next event } :=
        (Turn.after_of_some hrests hover hf).1
      rw [hafter, List.filterMap_cons_some hf, Turn.deeds_of_some hf]
      cases event with
      | message hello =>
        have hactive : ({ session with state := session.state.next (.message hello) } :
            Session).state = .active hello.sender := by
          rw [hs]
          rfl
        obtain ⟨messages, ending?, hfound, hpath, hdeeds, hends⟩ := life_of_active hactive rounds
        refine ⟨hello :: messages, ending?, ?_, ?_, ?_, ends_cons (by simp [hf]) hends⟩
        · rw [hfound]
          rfl
        · rw [Turn.passes_of_hello hs hf, List.cons_append, List.cons_append, List.cons_append,
            List.nil_append, List.destutter'_cons_pos _ (by simp),
            List.destutter'_cons_neg _ (by simp), List.destutter'_cons_neg _ (by simp), hpath]
          rfl
        · rw [hdeeds, hs]
          simp only [deeds, conduct, List.cons_append, List.append_assoc]
      | ending ending =>
        rw [life_of_over (by rw [hs]; rfl), Turn.passes_of_stale hs hf]
        refine ⟨[], some ending, rfl, ?_, by rw [hs]; rfl, ends_singleton hf ?_⟩
        · simp [itinerary]
        · rw [hafter, hs]
          rfl

end Session

end BroadcastChat
