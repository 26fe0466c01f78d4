/-
# The hub's programs follow the rules

One lemma for each program of the hub: from which notes it may start and with
which it ends. A broadcast or a submit leaves its caller's notes as they were;
whoever takes a name over holds it afterwards; whoever lets go is retired. A
session and a listener are known by one note between their turns
(`Session.note`, `Listener.note`).

Key definitions: `Listener.note`, `Session.note`.
Key theorems: `Program.keeps_broadcast`, `Program.keeps_submit`,
`Program.keeps_openListener`, `Program.keeps_letGo`, `Program.keeps_shutDown`,
`Session.keeps_start`, `Session.keeps_turn`.
-/
import BroadcastChat.Proofs.Conduct
import BroadcastChat.Hub

namespace BroadcastChat

/-- What the owner of a listener notes. -/
def Listener.note (listener : Listener) : Note :=
  if listener.enrolled then .settled listener.name listener.endpoint
  else .retired listener.endpoint

/-- What a session notes while it waits for an event. -/
def Session.note (session : Session) : Note :=
  match session.state with
  | .awaitingHello => .made session.endpoint
  | .active name | .closing name _ => .held name session.endpoint
  | .closed _ => .retired session.endpoint

theorem Listener.owned_note (listener : Listener) :
    listener.note.owned? = some listener.endpoint := by
  unfold note
  split <;> rfl

theorem Session.owned_note (session : Session) :
    session.note.owned? = some session.endpoint := by
  unfold note
  split <;> rfl

namespace Program

variable {α : Type} {own : Multiset Note}

/-! ### Broadcasts -/

theorem keeps_handOut (delivery : Delivery) (bindings : List Binding) (report : Report) :
    (handOut delivery report bindings).Keeps (fun _ notes => notes = own)
      (Multiset.map (fun b : Binding => .known b.1 b.2) bindings + own) := by
  induction bindings generalizing report with
  | nil => exact keeps_pure (by simp)
  | cons b rest ih =>
    obtain ⟨name, endpoint⟩ := b
    rw [← Multiset.cons_coe, Multiset.map_cons, Multiset.cons_add, handOut]
    refine keeps_act fun answer => ?_
    cases answer with
    | ok u => exact ⟨_, .taken, ih _⟩
    | error refusal =>
      refine ⟨_, .refuse, keeps_act fun removed => ⟨_, .prune, ?_⟩⟩
      exact keeps_act fun wasOpen => ⟨_, .pay, ih _⟩

theorem keeps_broadcast (message : Message) :
    (broadcast message).Keeps (fun _ notes => notes = own) own := by
  refine keeps_act fun time => ⟨_, .now, ?_⟩
  exact keeps_act fun bindings => ⟨_, .snapshot, keeps_handOut _ _ _⟩

theorem keeps_submit (message : Message) :
    (submit message).Keeps (fun _ notes => notes = .asking ::ₘ own) (.asking ::ₘ own) := by
  refine keeps_act fun holder => ?_
  cases holder with
  | none => exact ⟨_, .absent, keeps_pure rfl⟩
  | some endpoint =>
    refine ⟨_, .found, keeps_act fun closed => ?_⟩
    cases closed with
    | true =>
      rw [Multiset.cons_swap]
      refine ⟨_, .foundClosed, ?_⟩
      rw [Multiset.cons_swap]
      exact keeps_act fun removed => ⟨_, .tidy, keeps_pure rfl⟩
    | false =>
      refine ⟨_, .stillOpen, Keeps.bind ((keeps_broadcast message).mono ?_)⟩
      rintro report notes rfl
      exact keeps_pure rfl

/-! ### Listeners -/

/-- Whoever takes a name over holds it and has closed the endpoint before. -/
theorem keeps_takeOver (name : Name) (endpoint : EndpointId) :
    (takeOver name endpoint).Keeps (fun _ notes => notes = .held name endpoint ::ₘ own)
      (.made endpoint ::ₘ own) := by
  refine keeps_act fun superseded => ⟨_, .register, ?_⟩
  cases superseded with
  | none => exact keeps_pure (zero_add _)
  | some previous => exact keeps_act fun wasOpen => ⟨_, .pay, keeps_pure rfl⟩

theorem keeps_subscribe (capacity : Nat) (name : Name) :
    (subscribe capacity name).Keeps (fun listener notes =>
      notes = .held listener.name listener.endpoint ::ₘ own ∧ listener.enrolled = true) own := by
  refine keeps_act fun endpoint => ⟨_, .create, Keeps.bind ((keeps_takeOver name endpoint).mono ?_)⟩
  rintro _ notes rfl
  exact keeps_pure ⟨rfl, rfl⟩

theorem keeps_closedListener (name : Name) :
    (closedListener name).Keeps (fun listener notes => notes = listener.note ::ₘ own) own := by
  refine keeps_act fun endpoint => ⟨_, .create, ?_⟩
  exact keeps_act fun wasOpen => ⟨_, .discard, keeps_pure rfl⟩

/-- A listener's owner that lets go is left with nothing that matters. -/
theorem keeps_letGo (listener : Listener) {note : Note} (h : note = listener.note ∨
      (note = .held listener.name listener.endpoint ∧ listener.enrolled = true)) :
    (letGo listener).Keeps (fun _ notes => ∃ idle, AllIdle idle ∧ notes = idle + own)
      (.parting ::ₘ note ::ₘ own) := by
  have hlast : ∀ {before idle}, AllIdle idle →
      (∀ wasOpen, Entry before (.close listener.endpoint) wasOpen
        (.retired listener.endpoint ::ₘ (idle + own))) →
      (close listener.endpoint >>= fun _ => drop listener.endpoint).Keeps
        (fun _ notes => ∃ idle, AllIdle idle ∧ notes = idle + own) before := by
    intro before idle hi hclose
    refine keeps_act fun wasOpen => ⟨_, hclose wasOpen, fun _ => ⟨_, .drop, ?_⟩⟩
    exact ⟨.retired listener.endpoint ::ₘ idle, hi.cons trivial, (Multiset.cons_add _ _ _).symm⟩
  unfold letGo
  by_cases henrolled : listener.enrolled = true
  · rw [if_pos henrolled]
    refine keeps_act fun removed => ?_
    have hpay : ∀ wasOpen, Entry
        (.owes listener.endpoint ::ₘ .retired listener.endpoint ::ₘ own)
        (.close listener.endpoint) wasOpen (.retired listener.endpoint ::ₘ (0 + own)) := by
      intro wasOpen
      rw [zero_add]
      exact .pay
    rcases h with rfl | ⟨rfl, _⟩
    · rw [Listener.note, if_pos henrolled]
      exact ⟨_, .leave, hlast allIdle_zero hpay⟩
    · exact ⟨_, .release, hlast allIdle_zero hpay⟩
  · rw [if_neg henrolled]
    rcases h with rfl | ⟨_, he⟩
    · rw [Listener.note, if_neg henrolled, Multiset.cons_swap]
      have hparting : AllIdle (.parting ::ₘ 0) := allIdle_zero.cons trivial
      exact hlast hparting fun wasOpen => .closeAgain
    · exact absurd he henrolled

/-- A listener that has been opened is settled under its name or retired. -/
theorem keeps_openListener (capacity : Nat) (name : Name) :
    (openListener capacity name).Keeps (fun listener notes =>
      ∃ idle, AllIdle idle ∧ notes = idle + listener.note ::ₘ own) own := by
  refine keeps_act fun stopped => ?_
  cases stopped with
  | true =>
    refine ⟨_, .looked, (keeps_closedListener name).mono ?_⟩
    rintro listener notes rfl
    exact ⟨0, allIdle_zero, (zero_add _).symm⟩
  | false =>
    refine ⟨_, .looked, Keeps.bind ((keeps_subscribe capacity name).mono ?_)⟩
    rintro listener notes ⟨rfl, henrolled⟩
    refine keeps_act fun stopped => ?_
    cases stopped with
    | true =>
      -- the hub stopped meanwhile, so the name is given back
      refine ⟨_, .stopping, Keeps.bind ((keeps_letGo listener (.inr ⟨rfl, henrolled⟩)).mono ?_)⟩
      rintro _ notes ⟨idle, hi, rfl⟩
      refine (keeps_closedListener name).mono ?_
      rintro closed notes rfl
      exact ⟨idle, hi, (Multiset.add_cons _ _ _).symm⟩
    | false =>
      refine ⟨_, .settle, keeps_pure ⟨0, allIdle_zero, ?_⟩⟩
      rw [zero_add, Listener.note, if_pos henrolled]

/-! ### Stopping -/

theorem keeps_closeAll (bindings : List Binding) :
    (closeAll bindings).Keeps (fun _ notes => notes = own)
      (Multiset.map (fun b : Binding => .owes b.2) bindings + own) := by
  induction bindings with
  | nil => exact keeps_pure (by simp)
  | cons b rest ih =>
    obtain ⟨name, endpoint⟩ := b
    rw [← Multiset.cons_coe, Multiset.map_cons, Multiset.cons_add, closeAll]
    exact keeps_act fun wasOpen => ⟨_, .pay, ih⟩

/-- Whoever stops the hub has emptied the registry and closed what it held. -/
theorem keeps_shutDown :
    shutDown.Keeps (fun _ notes => notes = .swept ::ₘ own) own := by
  refine keeps_act fun _ => ⟨_, .stop, ?_⟩
  exact keeps_act fun bindings => ⟨_, .drain, keeps_closeAll bindings⟩

end Program

/-! ### Sessions -/

namespace Session

open Program

variable {own : Multiset Note}

/-- Whether the session waits for an event or has ended; it never rests while it closes. -/
def Rests (session : Session) : Prop := ∀ name outcome, session.state ≠ .closing name outcome

section

variable {session : Session}

theorem isOver_of_active {name : Name} (hs : session.state = .active name) :
    session.isOver = false := by
  rw [isOver, hs]
  rfl

theorem isOver_of_awaiting (hs : session.state = .awaitingHello) : session.isOver = false := by
  rw [isOver, hs]
  rfl

theorem rests_of_active {name : Name} (hs : session.state = .active name) : session.Rests := by
  intro name outcome heq
  rw [hs] at heq
  cases heq

theorem rests_of_awaiting (hs : session.state = .awaitingHello) : session.Rests := by
  intro name outcome heq
  rw [hs] at heq
  cases heq

end

theorem keeps_start (capacity : Nat) (inbound : InboundId) :
    (start capacity inbound).Keeps (fun session notes =>
      notes = session.note ::ₘ own ∧ session.state = .awaitingHello ∧
        session.inbound = inbound) own := by
  refine keeps_act fun endpoint => ⟨_, .create, ?_⟩
  exact keeps_act fun _ => ⟨_, .beginWait, keeps_pure ⟨rfl, rfl, rfl⟩⟩

/-- The notes of a session that has something to handle. -/
def heard (session : Session) (own : Multiset Note) : Option Event → Multiset Note
  | some (.ending _) => .parting ::ₘ session.note ::ₘ own
  | _ => session.note ::ₘ own

theorem keeps_nextEvent (session : Session) :
    session.nextEvent.Keeps (fun event notes => notes = session.heard own event)
      (session.note ::ₘ own) := by
  refine keeps_act fun stopped => ?_
  cases stopped with
  | true => exact ⟨_, .stopping, keeps_pure rfl⟩
  | false =>
    refine ⟨_, .looked, keeps_act fun closed => ?_⟩
    cases closed with
    | true => exact ⟨_, .evicted session.owned_note, keeps_pure rfl⟩
    | false =>
      refine ⟨_, .intact, keeps_act fun next => ?_⟩
      cases next with
      | arrival arrival =>
        cases arrival with
        | message m => exact ⟨_, .received, keeps_pure rfl⟩
        | cancelled => exact ⟨_, .ending rfl, keeps_pure rfl⟩
        | failed reason => exact ⟨_, .ending rfl, keeps_pure rfl⟩
      | waiting => exact ⟨_, .received, keeps_pure rfl⟩
      | ended => exact ⟨_, .ending rfl, keeps_pure rfl⟩

theorem keeps_greet (policy : GreetingPolicy) (session : Session) (hello : Message) :
    (session.greet policy hello).Keeps (fun state notes =>
      state = .active hello.sender ∧ notes = .held hello.sender session.endpoint ::ₘ own)
      (.made session.endpoint ::ₘ own) := by
  refine Keeps.bind ((keeps_takeOver hello.sender session.endpoint).mono ?_)
  rintro _ notes rfl
  cases policy with
  | broadcast =>
    refine Keeps.bind ((keeps_broadcast hello).mono ?_)
    rintro _ notes rfl
    exact keeps_pure ⟨rfl, rfl⟩
  | registerOnly => exact keeps_pure ⟨rfl, rfl⟩

/-- The end of a session that had a name. -/
theorem keeps_wrapUp_closing (session : Session) (name : Name) (outcome : Outcome) :
    (session.wrapUp (.closing name outcome)).Keeps (fun state notes =>
      state = .closed outcome ∧ notes = .retired session.endpoint ::ₘ own)
      (.parting ::ₘ .held name session.endpoint ::ₘ own) := by
  refine keeps_act fun removed => ⟨_, .release, ?_⟩
  refine keeps_act fun wasOpen => ⟨_, .pay, ?_⟩
  exact keeps_act fun _ => ⟨_, .endWait, keeps_pure ⟨rfl, rfl⟩⟩

/-- The end of a session that never had a name. -/
theorem keeps_wrapUp_closed (session : Session) (outcome : Outcome) :
    (session.wrapUp (.closed outcome)).Keeps (fun state notes =>
      state = .closed outcome ∧ notes = .retired session.endpoint ::ₘ own)
      (.made session.endpoint ::ₘ own) := by
  refine keeps_act fun wasOpen => ⟨_, .discard, ?_⟩
  exact keeps_act fun _ => ⟨_, .endWait, keeps_pure ⟨rfl, rfl⟩⟩

/-- What a turn of a session ends with. -/
def Turned (session : Session) (own : Multiset Note) :
    Option Session → Multiset Note → Prop
  | none, notes => notes = session.note ::ₘ own
  | some after, notes => after.Rests ∧ after.endpoint = session.endpoint ∧
      after.inbound = session.inbound ∧ ∃ idle, AllIdle idle ∧ notes = idle + after.note ::ₘ own

/-- **A turn of a session follows the rules**, whatever it finds to handle. -/
theorem keeps_turn (policy : GreetingPolicy) (session : Session) (hrests : session.Rests)
    (hover : session.isOver = false) :
    (session.turn policy).Keeps (session.Turned own) (session.note ::ₘ own) := by
  have hturned : ∀ {state : State} {idle}, AllIdle idle →
      (∀ name outcome, state ≠ .closing name outcome) →
      session.Turned own (some { session with state })
        (idle + ({ session with state } : Session).note ::ₘ own) :=
    fun hi hs => ⟨hs, rfl, rfl, _, hi, rfl⟩
  refine Keeps.bind ((keeps_nextEvent session).mono ?_)
  rintro event notes rfl
  cases event with
  | none => exact keeps_pure rfl
  | some event =>
    obtain ⟨endpoint, inbound, state⟩ := session
    cases state with
    | awaitingHello =>
      cases event with
      | message hello =>
        refine Keeps.bind ((keeps_greet policy _ hello).mono ?_)
        rintro state notes ⟨rfl, rfl⟩
        refine keeps_pure ?_
        have h := hturned allIdle_zero (by simp : ∀ n o, State.active hello.sender ≠ .closing n o)
        rw [zero_add] at h
        exact h
      | ending ending =>
        refine Keeps.bind (p := wrapUp _ (.closed (ending.outcome false))) ?_
        rw [heard, Multiset.cons_swap]
        refine (keeps_wrapUp_closed _ _).mono ?_
        rintro state notes ⟨rfl, rfl⟩
        refine keeps_pure ?_
        have hidle : AllIdle (.parting ::ₘ 0) := allIdle_zero.cons trivial
        have hstate : ∀ n o, State.closed (ending.outcome false) ≠ .closing n o := by simp
        have h := hturned hidle hstate
        rw [Multiset.cons_add, zero_add, Multiset.cons_swap] at h
        exact h
    | active name =>
      cases event with
      | message m =>
        refine Keeps.bind (Keeps.bind ((keeps_broadcast _).mono ?_))
        rintro _ notes rfl
        refine keeps_pure (keeps_pure ?_)
        have hstate : ∀ n o, State.active name ≠ .closing n o := by simp
        have h := hturned allIdle_zero hstate
        rw [zero_add] at h
        exact h
      | ending ending =>
        refine Keeps.bind (p := wrapUp _ (.closing name (ending.outcome true))) ?_
        refine (keeps_wrapUp_closing _ _ _).mono ?_
        rintro state notes ⟨rfl, rfl⟩
        refine keeps_pure ?_
        have hstate : ∀ n o, State.closed (ending.outcome true) ≠ .closing n o := by simp
        have h := hturned allIdle_zero hstate
        rw [zero_add] at h
        exact h
    | closing name outcome => exact absurd rfl (hrests name outcome)
    | closed outcome => cases hover

end Session

end BroadcastChat
