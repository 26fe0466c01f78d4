/-
# What happened

A program that runs leaves a trace: its actions with their answers, in order.
The traces of all tasks, one after the other or interleaved, make a log, and
what a statement says about the past it reads off the log: who registered
under which name and who did so last, what an endpoint accepted, whom a
delivery failed to reach, what the clock said, and whether the registry was
ever emptied.

Key definitions: `Event`, `Program.trace`, `registrations`, `lastHolder`,
`accepted`, `refusals`, `readings`, `Swept`.
Key theorems: `Program.trace_bind`, `lastHolder_append`.
-/
import BroadcastChat.Proofs.Actions

namespace BroadcastChat

/-- An action and what it answered. -/
structure Event where
  action : Action
  answer : action.Answer

namespace Event

/-- The binding that the event makes. -/
def binding? : Event → Option Binding
  | ⟨.register name endpoint, _⟩ => some (name, endpoint)
  | _ => none

/-- What an endpoint accepts by the event. -/
def accepted? (endpoint : EndpointId) : Event → Option Delivery
  | ⟨.deliver e delivery, .ok _⟩ => if e = endpoint then some delivery else none
  | _ => none

/-- Whom a delivery fails to reach, and why. -/
def refusal? : Event → Option (EndpointId × Refusal)
  | ⟨.deliver endpoint _, .error refusal⟩ => some (endpoint, refusal)
  | _ => none

/-- Whose stream is dropped. -/
def dropped? : Event → Option EndpointId
  | ⟨.drop endpoint, _⟩ => some endpoint
  | _ => none

/-- What the clock says. -/
def reading? : Event → Option Timestamp
  | ⟨.now, time⟩ => some time
  | _ => none

end Event

/-! ### Reading a log -/

section

variable (log : List Event)

/-- The bindings ever made, oldest first. -/
def registrations : List Binding := log.filterMap Event.binding?

/-- The endpoint that was registered last under a name. -/
def lastHolder (name : Name) : Option EndpointId :=
  ((registrations log).filter fun binding => binding.1 = name).getLast?.map Prod.snd

/-- The deliveries that an endpoint accepted, oldest first. -/
def accepted (endpoint : EndpointId) : List Delivery :=
  log.filterMap (Event.accepted? endpoint)

/-- The endpoints that a delivery failed to reach, and why. -/
def refusals : List (EndpointId × Refusal) := log.filterMap Event.refusal?

/-- The endpoints whose streams were dropped. -/
def drops : List EndpointId := log.filterMap Event.dropped?

/-- What the clock said, each time it was read. -/
def readings : List Timestamp := log.filterMap Event.reading?

/-- Whether the registry was emptied. -/
def Swept : Prop := ∃ event ∈ log, event.action = .drain

end

/-- Whether an endpoint was ever registered under a name. -/
def Registered (log : List Event) (name : Name) (endpoint : EndpointId) : Prop :=
  (name, endpoint) ∈ registrations log

instance (log : List Event) (name : Name) (endpoint : EndpointId) :
    Decidable (Registered log name endpoint) :=
  inferInstanceAs (Decidable ((name, endpoint) ∈ registrations log))

@[simp] theorem registrations_append (log more : List Event) :
    registrations (log ++ more) = registrations log ++ registrations more :=
  List.filterMap_append

@[simp] theorem accepted_append (log more : List Event) (endpoint : EndpointId) :
    accepted (log ++ more) endpoint = accepted log endpoint ++ accepted more endpoint :=
  List.filterMap_append

@[simp] theorem refusals_append (log more : List Event) :
    refusals (log ++ more) = refusals log ++ refusals more :=
  List.filterMap_append

@[simp] theorem drops_append (log more : List Event) :
    drops (log ++ more) = drops log ++ drops more :=
  List.filterMap_append

@[simp] theorem readings_append (log more : List Event) :
    readings (log ++ more) = readings log ++ readings more :=
  List.filterMap_append

theorem swept_append {log more : List Event} : Swept (log ++ more) ↔ Swept log ∨ Swept more := by
  simp only [Swept, List.mem_append, or_and_right, exists_or]

theorem registered_append {log more : List Event} {name : Name} {endpoint : EndpointId} :
    Registered (log ++ more) name endpoint ↔
      Registered log name endpoint ∨ Registered more name endpoint := by
  simp [Registered]

theorem lastHolder_append (log more : List Event) (name : Name) :
    lastHolder (log ++ more) name = (lastHolder more name).or (lastHolder log name) := by
  unfold lastHolder
  rw [registrations_append, List.filter_append, List.getLast?_append, Option.map_or]

theorem registered_of_lastHolder {log : List Event} {name : Name} {endpoint : EndpointId}
    (h : lastHolder log name = some endpoint) : Registered log name endpoint := by
  obtain ⟨⟨n, e⟩, hlast, rfl⟩ := Option.map_eq_some_iff.1 h
  have hmem := List.mem_of_getLast? hlast
  rw [List.mem_filter, decide_eq_true_iff] at hmem
  obtain ⟨hreg, rfl⟩ := hmem
  exact hreg

theorem lastHolder_eq_none {log : List Event} {name : Name}
    (h : ∀ e, ¬Registered log name e) : lastHolder log name = none := by
  cases hl : lastHolder log name with
  | none => rfl
  | some e => exact absurd (registered_of_lastHolder hl) (h e)

theorem not_registered_of_lastHolder {log : List Event} {name : Name}
    (h : lastHolder log name = none) (e : EndpointId) : ¬Registered log name e := by
  intro hr
  have hmem : (name, e) ∈ (registrations log).filter fun binding => binding.1 = name :=
    List.mem_filter.2 ⟨hr, decide_eq_true rfl⟩
  rw [lastHolder, Option.map_eq_none_iff, List.getLast?_eq_none_iff] at h
  rw [h] at hmem
  cases hmem

/-! ### One event -/

theorem registrations_singleton_register (name : Name) (endpoint : EndpointId)
    (answer : Option EndpointId) :
    registrations [⟨.register name endpoint, answer⟩] = [(name, endpoint)] := rfl

theorem lastHolder_singleton_register (name other : Name) (endpoint : EndpointId)
    (answer : Option EndpointId) :
    lastHolder [⟨.register name endpoint, answer⟩] other =
      if other = name then some endpoint else none := by
  unfold lastHolder
  rw [registrations_singleton_register]
  by_cases h : name = other
  · simp [h]
  · simp [h, Ne.symm h]

theorem registrations_singleton_of_ne {action : Action} {answer : action.Answer}
    (h : ∀ name endpoint, action ≠ .register name endpoint) :
    registrations [⟨action, answer⟩] = [] := by
  cases action with
  | register name endpoint => exact absurd rfl (h name endpoint)
  | _ => rfl

theorem accepted_singleton_ok (endpoint : EndpointId) (delivery : Delivery) :
    accepted [⟨.deliver endpoint delivery, .ok ()⟩] endpoint = [delivery] := by
  simp [accepted, Event.accepted?]

theorem accepted_singleton_of_ne {endpoint e : EndpointId} {delivery : Delivery}
    (answer : Except Refusal Unit) (h : e ≠ endpoint) :
    accepted [⟨.deliver endpoint delivery, answer⟩] e = [] := by
  cases answer with
  | ok u =>
    refine List.filterMap_eq_nil_iff.2 fun event hm => ?_
    rw [List.mem_singleton.1 hm]
    exact if_neg (Ne.symm h)
  | error refusal => rfl

theorem accepted_singleton_of_quiet {action : Action} {answer : action.Answer}
    (h : ∀ endpoint delivery, action ≠ .deliver endpoint delivery) (e : EndpointId) :
    accepted [⟨action, answer⟩] e = [] := by
  cases action with
  | deliver endpoint delivery => exact absurd rfl (h endpoint delivery)
  | _ => rfl

theorem swept_singleton {action : Action} {answer : action.Answer} :
    Swept [⟨action, answer⟩] ↔ action = .drain := by
  simp [Swept]

/-! ### The trace of a program -/

namespace Program

variable {α β : Type}

/-- The actions of a program that runs, with their answers, in order. -/
def trace (time : Timestamp) : Program α → Store → List Event
  | .done _, _ => []
  | .step action next, store =>
    ⟨action, (action.perform time store).1⟩ ::
      (next (action.perform time store).1).trace time (action.perform time store).2

@[simp] theorem trace_pure (time : Timestamp) (value : α) (store : Store) :
    (pure value : Program α).trace time store = [] := rfl

/-- A program that goes on with another one leaves the trace of the first and then the second. -/
@[simp] theorem trace_bind (time : Timestamp) (p : Program α) (k : α → Program β)
    (store : Store) :
    (p >>= k).trace time store =
      p.trace time store ++ (k (p.run time store).1).trace time (p.run time store).2 := by
  induction p generalizing store with
  | done => rfl
  | step action next ih => exact congrArg _ (ih _ _)

@[simp] theorem run_act (time : Timestamp) (action : Action) (store : Store) :
    (act action).run time store = action.perform time store := rfl

theorem trace_act_bind (time : Timestamp) (action : Action) (k : action.Answer → Program α)
    (store : Store) :
    (act action >>= k).trace time store = ⟨action, (action.perform time store).1⟩ ::
      (k (action.perform time store).1).trace time (action.perform time store).2 := rfl

theorem run_act_bind (time : Timestamp) (action : Action) (k : action.Answer → Program α)
    (store : Store) :
    (act action >>= k).run time store =
      (k (action.perform time store).1).run time (action.perform time store).2 := rfl

theorem run_step (time : Timestamp) (action : Action) (next : action.Answer → Program α)
    (store : Store) :
    (step action next).run time store =
      (next (action.perform time store).1).run time (action.perform time store).2 := rfl

end Program

end BroadcastChat
