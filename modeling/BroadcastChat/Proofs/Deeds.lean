/-
# What a session finds and what it does about it

Before a session does anything it looks: whether the hub has stopped, whether
its endpoint is closed, what has arrived. The most urgent of these is what it
finds (`Session.found?`), and looking takes one item off its client's stream at
most, and only on a hub that runs and with an endpoint that is open. What the
session then does are a few deeds, which depend on where it stands and on what
it found and on nothing else (`Session.deeds`): it takes a name over, it
broadcasts, it frees its name, it closes its endpoint.

Key definitions: `Program.Only`, `Session.found?`, `Session.Deed`,
`Session.deeds`, `Session.State.next`.
Key theorems: `Session.nextEvent_stopped`, `Session.nextEvent_closed`,
`Session.nextEvent_open`, `Session.handle_eq`.
-/
import BroadcastChat.Proofs.Turns

namespace BroadcastChat

namespace Program

variable {α β γ : Type}

/-! ### Programs as a monad -/

theorem bind_assoc (p : Program α) (k : α → Program β) (l : β → Program γ) :
    p >>= k >>= l = p >>= fun value => k value >>= l := by
  induction p with
  | done value => rfl
  | step action next ih => exact congrArg (step action) (funext fun answer => ih answer)

theorem pure_bind (value : α) (k : α → Program β) : pure value >>= k = k value := rfl

/-! ### Which actions a program uses -/

/-- Whatever its actions are answered, the program uses only actions that are allowed. -/
def Only (allowed : Action → Prop) : Program α → Prop
  | .done _ => True
  | .step action next => allowed action ∧ ∀ answer, (next answer).Only allowed

variable {allowed more : Action → Prop} {p : Program α}

theorem only_pure {value : α} : (pure value : Program α).Only allowed := trivial

theorem Only.bind {k : α → Program β} (h : p.Only allowed)
    (hk : ∀ value, (k value).Only allowed) : (p >>= k).Only allowed := by
  induction p with
  | done value => exact hk value
  | step action next ih => exact ⟨h.1, fun answer => ih answer (h.2 answer)⟩

theorem only_act_bind {action : Action} {k : action.Answer → Program β} (h : allowed action)
    (hk : ∀ answer, (k answer).Only allowed) : (act action >>= k).Only allowed := ⟨h, hk⟩

theorem Only.mono (h : p.Only allowed) (hsub : ∀ action, allowed action → more action) :
    p.Only more := by
  induction p with
  | done value => trivial
  | step action next ih => exact ⟨hsub action h.1, fun answer => ih answer (h.2 answer)⟩

/-- What holds of all actions of some kinds holds of a program that uses no others. -/
theorem Within.only {kinds : List Action.Kind} (h : p.Within kinds)
    (hall : ∀ action, action.kind ∈ kinds → allowed action) : p.Only allowed := by
  induction p with
  | done value => trivial
  | step action next ih => exact ⟨hall action h.1, fun answer => ih answer (h.2 answer)⟩

theorem Only.of_mem_trace {time : Timestamp} {store : Store} {event : Event}
    (h : p.Only allowed) (hm : event ∈ p.trace time store) : allowed event.action := by
  induction p generalizing store with
  | done value => cases hm
  | step action next ih =>
    rcases List.mem_cons.1 hm with rfl | hm
    · exact h.1
    · exact ih _ (h.2 _) hm

end Program

namespace Session

open Program

variable {time : Timestamp} {store : Store} {policy : GreetingPolicy} {session : Session}

/-! ### Looking -/

/-- The event of what reading the client's stream gives. -/
def Event.ofNext? : Inbound.Next → Option Event
  | .arrival arrival => some (.ofArrival arrival)
  | .ended => some (.ending .ended)
  | .waiting => none

/-- What a session finds when it looks, the most urgent first. -/
def found? (session : Session) (store : Store) : Option Event :=
  if store.stopped then some (.ending .cancelled)
  else if (store.endpoint session.endpoint).isClosed then some (.ending .evicted)
  else Event.ofNext? (store.inbound session.inbound).read.1

/-- The actions by which a session looks. -/
def Looks (session : Session) (action : Action) : Prop :=
  action = .isStopped ∨ action = .isClosed session.endpoint ∨ action = .receive session.inbound

theorem only_nextEvent (session : Session) : session.nextEvent.Only session.Looks := by
  refine only_act_bind (.inl rfl) fun stopped => ?_
  cases stopped with
  | true => exact only_pure
  | false =>
    refine only_act_bind (.inr (.inl rfl)) fun closed => ?_
    cases closed with
    | true => exact only_pure
    | false =>
      refine only_act_bind (.inr (.inr rfl)) fun next => ?_
      cases next <;> exact only_pure

theorem nextEvent_stopped (time : Timestamp) (hs : store.stopped = true) :
    session.nextEvent.run time store = (some (.ending .cancelled), store) ∧
      session.nextEvent.trace time store = [⟨.isStopped, true⟩] := by
  have hlook : Action.isStopped.perform time store = (true, store) := by
    simp only [Action.perform, hs]
  refine ⟨?_, ?_⟩
  · rw [nextEvent, isStopped, run_act_bind, hlook, if_pos rfl]
    rfl
  · rw [nextEvent, isStopped, trace_act_bind, hlook, if_pos rfl]
    rfl

theorem nextEvent_closed (time : Timestamp) (hs : store.stopped = false)
    (hc : store.Closed session.endpoint) :
    session.nextEvent.run time store = (some (.ending .evicted), store) ∧
      session.nextEvent.trace time store =
        [⟨.isStopped, false⟩, ⟨.isClosed session.endpoint, true⟩] := by
  have hlook : Action.isStopped.perform time store = (false, store) := by
    simp only [Action.perform, hs]
  have hsee : (Action.isClosed session.endpoint).perform time store = (true, store) := by
    simp only [Action.perform]
    rw [hc]
  refine ⟨?_, ?_⟩
  · rw [nextEvent, isStopped, run_act_bind, hlook, if_neg (by simp), isClosed, run_act_bind, hsee,
      if_pos rfl]
    rfl
  · rw [nextEvent, isStopped, trace_act_bind, hlook, if_neg (by simp), isClosed, trace_act_bind,
      hsee, if_pos rfl]
    rfl

/-- A session whose endpoint is open on a hub that runs reads once from its client's stream. -/
theorem nextEvent_open (time : Timestamp) (hs : store.stopped = false)
    (hc : ¬store.Closed session.endpoint) :
    session.nextEvent.run time store =
        (Event.ofNext? (store.inbound session.inbound).read.1,
          store.updateInbound session.inbound fun _ =>
            (store.inbound session.inbound).read.2) ∧
      session.nextEvent.trace time store =
        [⟨.isStopped, false⟩, ⟨.isClosed session.endpoint, false⟩,
          ⟨.receive session.inbound, (store.inbound session.inbound).read.1⟩] := by
  have hlook : Action.isStopped.perform time store = (false, store) := by
    simp only [Action.perform, hs]
  have hsee : (Action.isClosed session.endpoint).perform time store = (false, store) := by
    simp only [Action.perform]
    rw [Bool.eq_false_iff.2 hc]
  refine ⟨?_, ?_⟩
  · rw [nextEvent, isStopped, run_act_bind, hlook, if_neg (by simp), isClosed, run_act_bind, hsee,
      if_neg (by simp), receive, run_act_bind, Action.perform]
    cases (store.inbound session.inbound).read.1 <;> rfl
  · rw [nextEvent, isStopped, trace_act_bind, hlook, if_neg (by simp), isClosed, trace_act_bind,
      hsee, if_neg (by simp), receive, trace_act_bind, Action.perform]
    cases (store.inbound session.inbound).read.1 <;> rfl

/-- **What a session looks for is what it finds**, the most urgent first. -/
theorem fst_run_nextEvent (time : Timestamp) (store : Store) (session : Session) :
    (session.nextEvent.run time store).1 = session.found? store := by
  unfold found?
  by_cases hs : store.stopped = true
  · rw [if_pos hs, (nextEvent_stopped time hs).1]
  · have hrunning : store.stopped = false := by simpa using hs
    rw [if_neg hs]
    by_cases hc : store.Closed session.endpoint
    · rw [(nextEvent_closed time hrunning hc).1]
      exact (if_pos hc).symm
    · rw [(nextEvent_open time hrunning hc).1]
      exact (if_neg hc).symm

/-! ### Deeds -/

/-- What a session does about what it found. -/
inductive Deed where
  /-- It registers its endpoint under a name and closes the one it supersedes. -/
  | takeOver (name : Name)
  | broadcast (message : Message)
  /-- It frees its name, unless somebody else has it. -/
  | release (name : Name)
  /-- It closes its endpoint and gives up its wait for the closure. -/
  | finish
  deriving DecidableEq

/-- How the session with this endpoint does a deed. -/
def Deed.program (endpoint : EndpointId) : Deed → Program Unit
  | .takeOver name => Program.takeOver name endpoint
  | .broadcast message => do
    let _ ← Program.broadcast message
    return ()
  | .release name => do
    let _ ← removeIfCurrent name endpoint
    return ()
  | .finish => do
    let _ ← close endpoint
    Program.endWait endpoint

/-- Does the deeds one after the other. -/
def carryOut (endpoint : EndpointId) : List Deed → Program Unit
  | [] => pure ()
  | deed :: rest => do
    deed.program endpoint
    carryOut endpoint rest

/-- What a session does about its client's first message beside taking the name over. -/
def greeting (policy : GreetingPolicy) (hello : Message) : List Deed :=
  match policy with
  | .broadcast => [.broadcast hello]
  | .registerOnly => []

/-- What a session that stands here does about an event. -/
def deeds (policy : GreetingPolicy) : State → Event → List Deed
  | .awaitingHello, .message hello => .takeOver hello.sender :: greeting policy hello
  | .awaitingHello, .ending _ => [.finish]
  | .active name, .message message => [.broadcast (message.sentAs name)]
  | .active name, .ending _ => [.release name, .finish]
  | .closing _ _, _ | .closed _, _ => []

/-- Where a session stands when it has done its deeds. -/
def State.next : State → Event → State
  | .awaitingHello, .message hello => .active hello.sender
  | .awaitingHello, .ending ending => .closed (ending.outcome false)
  | .active name, .message _ => .active name
  | .active _, .ending ending => .closed (ending.outcome true)
  | state, _ => state

/-- **What a session does about an event are its deeds.** -/
theorem handle_eq (hrests : session.Rests) (hover : session.isOver = false) (event : Event) :
    session.handle policy event =
      carryOut session.endpoint (deeds policy session.state event) >>= fun _ =>
        pure (session.state.next event) := by
  unfold handle onEvent
  cases hs : session.state with
  | awaitingHello =>
    cases event with
    | message hello =>
      cases policy <;> simp only [greet, deeds, greeting, carryOut, Deed.program, State.next,
        bind_assoc, pure_bind, wrapUp_active]
    | ending ending =>
      simp only [deeds, carryOut, Deed.program, State.next, bind_assoc, pure_bind, wrapUp,
        release, finish]
  | active name =>
    cases event with
    | message message =>
      simp only [deeds, carryOut, Deed.program, State.next, bind_assoc, pure_bind, wrapUp_active]
    | ending ending =>
      simp only [deeds, carryOut, Deed.program, State.next, bind_assoc, pure_bind, wrapUp,
        release, finish]
  | closing name outcome => exact absurd hs (hrests name outcome)
  | closed outcome =>
    rw [isOver, hs] at hover
    cases hover

theorem run_handle (hrests : session.Rests) (hover : session.isOver = false) (event : Event) :
    (session.handle policy event).run time store = (session.state.next event,
      ((carryOut session.endpoint (deeds policy session.state event)).run time store).2) := by
  rw [handle_eq hrests hover, run_bind, run_pure]

theorem trace_handle (hrests : session.Rests) (hover : session.isOver = false) (event : Event) :
    (session.handle policy event).trace time store =
      (carryOut session.endpoint (deeds policy session.state event)).trace time store := by
  rw [handle_eq hrests hover, trace_bind, trace_pure, List.append_nil]

theorem within_handle_ending (policy : GreetingPolicy) (session : Session) (ending : Ending) :
    (session.handle policy (.ending ending)).Within [.remove, .close, .other] := by
  refine Within.bind ?_ fun state => within_wrapUp session state
  unfold onEvent
  cases session.state <;> exact within_pure

theorem only_carryOut {allowed : Action → Prop} {endpoint : EndpointId} {deeds : List Deed}
    (h : ∀ deed ∈ deeds, (deed.program endpoint).Only allowed) :
    (carryOut endpoint deeds).Only allowed := by
  induction deeds with
  | nil => exact only_pure
  | cons deed rest ih =>
    refine Only.bind (h deed List.mem_cons_self) fun _ => ih fun other hm => ?_
    exact h other (List.mem_cons_of_mem _ hm)

end Session

end BroadcastChat
