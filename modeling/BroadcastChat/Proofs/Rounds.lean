/-
# Going round the recipients

A broadcast lists its recipients and then tries them in turn. Whom it has
still to try, and whether the last one has yet to be removed because it did
not take the delivery, can be read off what the task did for its call so far
(`Progress.of`). All programs of the hub go round in the same way
(`Call.Proceeds`): recipients are listed when nobody is left to be tried, the
next one is offered the message of the call and nothing else, and after a
refusal the binding of the endpoint that refused is removed before anything
else is done. And a call uses one name, that of the sender it speaks for.

Key definitions: `Round`, `Round.next`, `Round.Allows`, `Progress`, `Call.message?`,
`Call.name?`, `Call.Proceeds`, `World.Task.Proceeds`.
Key theorems: `Call.proceeds_program`, `World.Task.proceeds_begin`, `World.Task.Proceeds.act`.
-/
import BroadcastChat.Proofs.Supersession
import BroadcastChat.Proofs.Deeds

namespace BroadcastChat

/-! ### Where a task stands -/

/-- How far a task is with its recipients. -/
inductive Round where
  /-- These are still to be tried. -/
  | trying (rest : List Binding)
  /-- The first one did not take the delivery and is still to be removed. -/
  | pruning (refused : Binding) (rest : List Binding)

namespace Round

/-- Whom the task may still find bound: those to be tried and the one to be removed. -/
def recipients : Round → List Binding
  | .trying rest => rest
  | .pruning refused rest => refused :: rest

/-- Who is still to be tried. -/
def waiting : Round → List Binding
  | .trying rest => rest
  | .pruning _ rest => rest

/-- How an action and its answer take the round on. -/
def next : Round → Event → Round
  | _, ⟨.snapshotExcept _, bindings⟩ => .trying bindings
  | .trying (_ :: rest), ⟨.deliver _ _, .ok _⟩ => .trying rest
  | .trying (b :: rest), ⟨.deliver _ _, .error _⟩ => .pruning b rest
  | .pruning _ rest, ⟨.removeIfCurrent _ _, _⟩ => .trying rest
  | round, _ => round

/-- What a task may do at this point, if this is what its call has to deliver. -/
def Allows (delivery? : Option Delivery) (action : Action) : Round → Prop
  | .trying [] => action.kind ≠ .deliver ∧
      ∀ n, action = .snapshotExcept n → ∃ d, delivery? = some d ∧ d.sender = n
  | .trying (b :: _) =>
    (∃ d, delivery? = some d ∧ action = .deliver b.2 d) ∨ ∃ e, action = .close e
  | .pruning b _ => action = .removeIfCurrent b.1 b.2

/-- What an allowed action with its answer does to a round. -/
inductive Step (delivery? : Option Delivery) : Round → Event → Round → Prop where
  | list {n : Name} {bindings : List Binding} {d : Delivery} (hd : delivery? = some d)
      (hn : d.sender = n) :
      Step delivery? (.trying []) ⟨.snapshotExcept n, bindings⟩ (.trying bindings)
  | accept {b : Binding} {rest : List Binding} {d : Delivery} {u : Unit} (hd : delivery? = some d) :
      Step delivery? (.trying (b :: rest)) ⟨.deliver b.2 d, .ok u⟩ (.trying rest)
  | refuse {b : Binding} {rest : List Binding} {d : Delivery} {refusal : Refusal} :
      Step delivery? (.trying (b :: rest)) ⟨.deliver b.2 d, .error refusal⟩ (.pruning b rest)
  | prune {b : Binding} {rest : List Binding} {removed : Bool} :
      Step delivery? (.pruning b rest) ⟨.removeIfCurrent b.1 b.2, removed⟩ (.trying rest)
  | between {event : Event} (hd : event.action.kind ≠ .deliver)
      (hl : ∀ n, event.action ≠ .snapshotExcept n) :
      Step delivery? (.trying []) event (.trying [])
  /-- An endpoint is closed between two deliveries. -/
  | close {b : Binding} {rest : List Binding} {e : EndpointId} {wasOpen : Bool} :
      Step delivery? (.trying (b :: rest)) ⟨.close e, wasOpen⟩ (.trying (b :: rest))

theorem step_next {round : Round} {delivery? : Option Delivery} {action : Action}
    (h : round.Allows delivery? action) (answer : action.Answer) :
    Step delivery? round ⟨action, answer⟩ (round.next ⟨action, answer⟩) := by
  cases round with
  | trying rest =>
    cases rest with
    | nil =>
      obtain ⟨hdeliver, hlist⟩ := h
      by_cases hl : ∃ n, action = .snapshotExcept n
      · obtain ⟨n, rfl⟩ := hl
        obtain ⟨d, hd, hn⟩ := hlist n rfl
        exact .list hd hn
      · have hsame : (Round.trying []).next ⟨action, answer⟩ = .trying [] := by
          cases action with
          | snapshotExcept n => exact absurd ⟨n, rfl⟩ hl
          | deliver e d => exact absurd rfl hdeliver
          | _ => rfl
        rw [hsame]
        exact .between hdeliver fun n heq => hl ⟨n, heq⟩
    | cons b rest =>
      rcases h with ⟨d, hd, rfl⟩ | ⟨e, rfl⟩
      · cases answer with
        | ok u => exact .accept hd
        | error refusal => exact .refuse
      · exact .close
  | pruning b rest =>
    cases h
    exact .prune

theorem Step.recipients {round after : Round} {delivery? : Option Delivery} {event : Event}
    (h : Step delivery? round event after) :
    (∃ n bindings, event = ⟨.snapshotExcept n, bindings⟩ ∧ after = .trying bindings) ∨
      after.recipients.Sublist round.recipients := by
  cases h with
  | list hd hn => exact .inl ⟨_, _, rfl, rfl⟩
  | accept hd => exact .inr (List.sublist_cons_self _ _)
  | refuse => exact .inr (List.Sublist.refl _)
  | prune => exact .inr (List.sublist_cons_self _ _)
  | between hd hl => exact .inr (List.Sublist.refl _)
  | close => exact .inr (List.Sublist.refl _)

end Round

/-- The message that the event brings in. -/
def Event.received? : Event → Option Message
  | ⟨.receive _, .arrival (.message message)⟩ => some message
  | _ => none

/-- What a task has heard and read off the clock for its call, and how far its round is. -/
structure Progress where
  heard : Option Message
  reading : Option Timestamp
  round : Round

namespace Progress

/-- A task that has done nothing for its call. -/
def new : Progress := ⟨none, none, .trying []⟩

/-- What an action and its answer add. -/
def next (progress : Progress) (event : Event) : Progress where
  heard := progress.heard.or event.received?
  reading := event.reading?.or progress.reading
  round := progress.round.next event

/-- Where a task stands that has done so much for its call. -/
def of (past : List Event) : Progress := past.foldl next new

theorem of_concat (past : List Event) (event : Event) :
    of (past ++ [event]) = (of past).next event := List.foldl_concat ..

/-- Only what is received or read off the clock changes what is to be delivered. -/
theorem next_eq {progress : Progress} {action : Action} {answer : action.Answer}
    (hr : action.kind ≠ .receive) (hn : action.kind ≠ .now) :
    progress.next ⟨action, answer⟩ =
      { progress with round := progress.round.next ⟨action, answer⟩ } := by
  have hheard : progress.heard.or (Event.received? ⟨action, answer⟩) = progress.heard := by
    cases action with
    | receive inbound => exact absurd rfl hr
    | _ => exact Option.or_none
  rw [next, hheard]
  cases action with
  | now => exact absurd rfl hn
  | _ => rfl

end Progress

/-! ### What a call is about -/

namespace Call

/-- The message that a call hands out, once it has heard this. -/
def message? (policy : GreetingPolicy) (heard : Option Message) : Call → Option Message
  | .turn session => heard.bind (session.speech? policy)
  | .submit message | .broadcast message => some message
  | .connect _ | .openListener _ | .letGo _ | .shutDown => none

/-- What a call hands out, once it has come so far. -/
def delivery? (policy : GreetingPolicy) (progress : Progress) (call : Call) : Option Delivery :=
  (call.message? policy progress.heard).bind fun message =>
    progress.reading.map fun time => ⟨message, time⟩

/-- The name that a call acts under, once it has heard this. -/
def name? (heard : Option Message) : Call → Option Name
  | .turn session =>
    match session.state with
    | .awaitingHello => heard.map Message.sender
    | .active name | .closing name _ => some name
    | .closed _ => none
  | .openListener name => some name
  | .letGo listener => some listener.name
  | .submit message | .broadcast message => some message.sender
  | .connect _ | .shutDown => none

end Call

/-- The name under which an action registers somebody or lists everybody else. -/
def Action.name? : Action → Option Name
  | .register name _ | .snapshotExcept name => some name
  | _ => none

/-- The call goes round its recipients in order, and under its own name. -/
structure Call.Proceeds (policy : GreetingPolicy) (call : Call) (past : List Event)
    (action : Action) : Prop where
  named : ∀ n, action.name? = some n → call.name? (Progress.of past).heard = some n
  allowed : (Progress.of past).round.Allows (call.delivery? policy (Progress.of past)) action

/-- The name of what a call leaves behind is the call's. -/
def Resting.Keeps (name? : Option Name) : Resting → Prop
  | .session s =>
    match s.state with
    | .awaitingHello => name? = none
    | .active name | .closing name _ => name? = some name
    | .closed _ => True
  | .listener l => name? = some l.name
  | .returned _ => True

/-- No round is under way, and this has been heard. -/
structure Clear (heard : Option Message) (past : List Event) : Prop where
  round_eq : (Progress.of past).round = .trying []
  heard_eq : (Progress.of past).heard = heard

/-- A call ends when its round does. -/
def Call.Concludes (call : Call) (past : List Event) (resting : Resting) : Prop :=
  ∃ heard, Clear heard past ∧ resting.Keeps (call.name? heard)

/-! ### Beside the round -/

/-- Has nothing to do with a round, and uses no other name. -/
def Action.Aside (name? : Option Name) : Action → Prop
  | .deliver _ _ | .snapshotExcept _ | .receive _ => False
  | .register name _ => name? = some name
  | _ => True

section

variable {α : Type} {policy : GreetingPolicy} {call : Call} {past : List Event}
  {heard : Option Message}

open Program

theorem clear_nil : Clear none [] := ⟨rfl, rfl⟩

theorem Clear.concat {action : Action} (h : Clear heard past)
    (ha : action.Aside (call.name? heard)) (answer : action.Answer) :
    Clear heard (past ++ [⟨action, answer⟩]) := by
  obtain ⟨hround, hheard⟩ := h
  refine ⟨?_, ?_⟩
  · rw [Progress.of_concat, Progress.next, hround]
    cases action with
    | deliver | snapshotExcept | receive => cases ha
    | _ => rfl
  · rw [Progress.of_concat, Progress.next, hheard]
    cases action with
    | deliver | snapshotExcept | receive => cases ha
    | _ => exact Option.or_none

theorem Clear.proceeds {action : Action} (h : Clear heard past)
    (ha : action.Aside (call.name? heard)) : call.Proceeds policy past action := by
  obtain ⟨hround, hheard⟩ := h
  refine ⟨?_, ?_⟩
  · intro n hn
    rw [hheard]
    cases action with
    | register name e =>
      cases hn
      exact ha
    | snapshotExcept name => cases ha
    | _ => cases hn
  · rw [hround]
    refine ⟨?_, ?_⟩
    · intro hkind
      cases action with
      | deliver e d => cases ha
      | _ => cases hkind
    · rintro n rfl
      cases ha

/-- An action that has nothing to do with a round, and then the rest. -/
theorem Clear.follows_act {action : Action} {k : action.Answer → Program α}
    {ends : List Event → α → Prop} (h : Clear heard past) (ha : action.Aside (call.name? heard))
    (hk : ∀ answer, Clear heard (past ++ [⟨action, answer⟩]) →
      (k answer).Follows (call.Proceeds policy) ends (past ++ [⟨action, answer⟩])) :
    (act action >>= k).Follows (call.Proceeds policy) ends past :=
  Program.follows_act (h.proceeds ha) fun answer => hk answer (h.concat ha answer)

/-! ### One round -/

/-- A round is under way in which this is delivered. -/
structure Offers (policy : GreetingPolicy) (call : Call) (heard : Option Message)
    (delivery : Delivery) (round : Round) (past : List Event) : Prop where
  round_eq : (Progress.of past).round = round
  heard_eq : (Progress.of past).heard = heard
  delivery_eq : call.delivery? policy (Progress.of past) = some delivery

namespace Offers

variable {delivery : Delivery} {round : Round} {action : Action}

/-- What is to be delivered does not change on the way. -/
theorem concat (h : Offers policy call heard delivery round past) (action : Action)
    (hr : action.kind ≠ .receive) (hn : action.kind ≠ .now) (answer : action.Answer) :
    Offers policy call heard delivery (round.next ⟨action, answer⟩)
      (past ++ [⟨action, answer⟩]) := by
  have hnext : Progress.of (past ++ [⟨action, answer⟩]) =
      { Progress.of past with round := round.next ⟨action, answer⟩ } := by
    rw [Progress.of_concat, ← h.round_eq]
    exact Progress.next_eq hr hn
  refine ⟨?_, ?_, ?_⟩
  · rw [hnext]
  · rw [hnext]
    exact h.heard_eq
  · rw [hnext, ← h.delivery_eq]
    rfl

theorem proceeds (h : Offers policy call heard delivery round past) (hn : action.name? = none)
    (ha : round.Allows (some delivery) action) : call.Proceeds policy past action := by
  refine ⟨?_, ?_⟩
  · intro n hname
    rw [hn] at hname
    cases hname
  · rw [h.round_eq, h.delivery_eq]
    exact ha

/-- A broadcast that has listed its recipients goes round them. -/
theorem handOut {bindings : List Binding} (report : Report)
    (h : Offers policy call heard delivery (.trying bindings) past) :
    (Program.handOut delivery report bindings).Follows (call.Proceeds policy)
      (fun after _ => Clear heard after) past := by
  induction bindings generalizing report past with
  | nil => exact follows_pure ⟨h.round_eq, h.heard_eq⟩
  | cons b rest ih =>
    obtain ⟨name, endpoint⟩ := b
    have hoffer : (Round.trying ((name, endpoint) :: rest)).Allows (some delivery)
        (.deliver endpoint delivery) := .inl ⟨delivery, rfl, rfl⟩
    refine follows_act (h.proceeds rfl hoffer) fun answer => ?_
    have hoffered := h.concat (.deliver endpoint delivery) (by simp) (by simp) answer
    cases answer with
    | ok u => exact ih _ hoffered
    | error refusal =>
      refine follows_act (hoffered.proceeds rfl rfl) fun removed => ?_
      have hremoved := hoffered.concat (.removeIfCurrent name endpoint) (by simp) (by simp) removed
      refine follows_act (hremoved.proceeds rfl ?_) fun wasOpen => ih _ ?_
      · cases rest with
        | nil => exact ⟨by simp, by simp⟩
        | cons b rest => exact .inr ⟨endpoint, rfl⟩
      · have hclosed := hremoved.concat (.close endpoint) (by simp) (by simp) wasOpen
        cases rest with
        | nil => exact hclosed
        | cons b rest => exact hclosed

end Offers

/-- **A broadcast goes round its recipients** with the message of its call. -/
theorem Program.proceeds_broadcast {message : Message} (h : Clear heard past)
    (hmessage : call.message? policy heard = some message)
    (hname : call.name? heard = some message.sender) :
    (broadcast message).Follows (call.Proceeds policy) (fun after _ => Clear heard after) past := by
  refine h.follows_act trivial fun time hnow => ?_
  have hstamped : Offers policy call heard ⟨message, time⟩ (.trying [])
      (past ++ [⟨.now, time⟩]) := by
    obtain ⟨hround, hheard⟩ := hnow
    refine ⟨hround, hheard, ?_⟩
    have hreading : (Progress.of (past ++ [⟨.now, time⟩])).reading = some time := by
      rw [Progress.of_concat]
      rfl
    rw [Call.delivery?, hheard, hmessage, hreading]
    rfl
  refine follows_act ⟨?_, ?_⟩ fun bindings => ?_
  · intro n hn
    cases hn
    rw [hstamped.heard_eq, hname]
  · rw [hstamped.round_eq, hstamped.delivery_eq]
    refine ⟨by simp, fun n hn => ?_⟩
    cases hn
    exact ⟨_, rfl, rfl⟩
  · have hlisted := hstamped.concat (.snapshotExcept message.sender) (by simp) (by simp) bindings
    exact hlisted.handOut _

/-! ### The hub's programs -/

theorem Program.proceeds_submit {message : Message} (h : Clear none past) :
    (submit message).Follows ((Call.submit message).Proceeds policy)
      (fun after _ => Clear none after) past := by
  refine h.follows_act trivial fun holder h => ?_
  cases holder with
  | none => exact follows_pure h
  | some endpoint =>
    refine h.follows_act trivial fun closed h => ?_
    cases closed with
    | true => exact h.follows_act trivial fun removed h => follows_pure h
    | false =>
      exact Follows.bind ((proceeds_broadcast h rfl rfl).mono fun after report h =>
        follows_pure h)

theorem Program.proceeds_takeOver {name : Name} (endpoint : EndpointId) (h : Clear heard past)
    (hname : call.name? heard = some name) :
    (takeOver name endpoint).Follows (call.Proceeds policy) (fun after _ => Clear heard after)
      past := by
  refine h.follows_act hname fun superseded h => ?_
  cases superseded with
  | none => exact follows_pure h
  | some previous => exact h.follows_act trivial fun wasOpen h => follows_pure h

theorem Program.proceeds_letGo (listener : Listener) (h : Clear heard past) :
    (letGo listener).Follows (call.Proceeds policy) (fun after _ => Clear heard after) past := by
  have hlast : ∀ {past}, Clear heard past →
      (close listener.endpoint >>= fun _ => drop listener.endpoint).Follows (call.Proceeds policy)
        (fun after _ => Clear heard after) past := by
    intro past h
    refine h.follows_act trivial fun wasOpen h => ?_
    have hdrop : (Action.drop listener.endpoint).Aside (call.name? heard) := trivial
    exact ⟨h.proceeds hdrop, fun answer => h.concat hdrop answer⟩
  unfold letGo
  by_cases henrolled : listener.enrolled = true
  · rw [if_pos henrolled]
    exact h.follows_act trivial fun removed h => hlast h
  · rw [if_neg henrolled]
    exact hlast h

theorem Program.proceeds_closedListener (name : Name) (h : Clear heard past) :
    (closedListener name).Follows (call.Proceeds policy)
      (fun after listener => Clear heard after ∧ listener.name = name) past := by
  refine h.follows_act trivial fun endpoint h => ?_
  exact h.follows_act trivial fun wasOpen h => follows_pure ⟨h, rfl⟩

/-- A listener takes over the name it is opened under. -/
theorem Program.proceeds_openListener (capacity : Nat) (name : Name) (h : Clear heard past) :
    (openListener capacity name).Follows ((Call.openListener name).Proceeds policy)
      (fun after listener => Clear heard after ∧ listener.name = name) past := by
  refine h.follows_act trivial fun stopped h => ?_
  cases stopped with
  | true => exact proceeds_closedListener name h
  | false =>
    have hsubscribe : ∀ {past}, Clear heard past →
        (subscribe capacity name).Follows ((Call.openListener name).Proceeds policy)
          (fun after listener => Clear heard after ∧ listener.name = name) past := by
      intro past h
      refine h.follows_act trivial fun endpoint h => ?_
      exact Follows.bind ((proceeds_takeOver endpoint h rfl).mono fun after _ h =>
        follows_pure ⟨h, rfl⟩)
    refine Follows.bind ((hsubscribe h).mono fun after listener ⟨h, hname⟩ => ?_)
    refine h.follows_act trivial fun stopped h => ?_
    cases stopped with
    | true =>
      exact Follows.bind ((proceeds_letGo listener h).mono fun after _ h =>
        proceeds_closedListener name h)
    | false => exact follows_pure ⟨h, hname⟩

theorem Program.proceeds_shutDown (h : Clear heard past) :
    shutDown.Follows (call.Proceeds policy) (fun after _ => Clear heard after) past := by
  have hclose : ∀ (bindings : List Binding) {past}, Clear heard past →
      (closeAll bindings).Follows (call.Proceeds policy) (fun after _ => Clear heard after)
        past := by
    intro bindings
    induction bindings with
    | nil => exact fun h => follows_pure h
    | cons b rest ih => exact fun h => h.follows_act trivial fun wasOpen h => ih h
  refine h.follows_act trivial fun _ h => ?_
  exact h.follows_act trivial fun bindings h => hclose bindings h

end

/-! ### Sessions -/

namespace Session

open Program

variable {policy : GreetingPolicy} {session : Session} {past : List BroadcastChat.Event}
  {heard : Option Message}

/-- The message of an event. -/
def Event.message? : Event → Option Message
  | .message m => some m
  | .ending _ => none

theorem proceeds_start {call : Call} (capacity : Nat) (inbound : InboundId)
    (h : Clear heard past) :
    (start capacity inbound).Follows (call.Proceeds policy) (fun after session =>
      Clear heard after ∧ session.state = .awaitingHello) past := by
  refine h.follows_act trivial fun endpoint h => ?_
  exact h.follows_act trivial fun _ h => follows_pure ⟨h, rfl⟩

/-- A session hears the message that it goes on to handle. -/
theorem proceeds_nextEvent {call : Call} (h : Clear none past) :
    session.nextEvent.Follows (call.Proceeds policy)
      (fun after event => Clear (event.bind Event.message?) after) past := by
  refine h.follows_act trivial fun stopped h => ?_
  cases stopped with
  | true => exact follows_pure h
  | false =>
    refine h.follows_act trivial fun closed h => ?_
    cases closed with
    | true => exact follows_pure h
    | false =>
      refine follows_act ⟨by simp [Action.name?], ?_⟩ fun next => ?_
      · rw [h.round_eq]
        exact ⟨by simp, by simp⟩
      · have hheard : ∀ {heard}, Event.received? ⟨.receive session.inbound, next⟩ = heard →
            Clear heard (past ++ [⟨.isStopped, false⟩] ++ [⟨.isClosed session.endpoint, false⟩] ++
              [⟨.receive session.inbound, next⟩]) := by
          rintro heard rfl
          refine ⟨?_, ?_⟩
          · rw [Progress.of_concat, Progress.next, h.round_eq]
            rfl
          · rw [Progress.of_concat, Progress.next, h.heard_eq]
            rfl
        cases next with
        | arrival arrival => cases arrival <;> exact follows_pure (hheard rfl)
        | ended => exact follows_pure (hheard rfl)
        | waiting => exact follows_pure (hheard rfl)

theorem proceeds_onEvent {event : Event} (h : Clear event.message? past) :
    (session.onEvent policy event).Follows ((Call.turn session).Proceeds policy)
      (fun after state => Clear event.message? after ∧
        (Resting.session { session with state }).Keeps
          ((Call.turn session).name? event.message?)) past := by
  obtain ⟨endpoint, inbound, state⟩ := session
  cases state with
  | awaitingHello =>
    cases event with
    | message hello =>
      refine Follows.bind ((proceeds_takeOver endpoint h rfl).mono fun after _ h => ?_)
      cases policy with
      | broadcast =>
        exact Follows.bind ((proceeds_broadcast h rfl rfl).mono fun after _ h =>
          follows_pure ⟨h, rfl⟩)
      | registerOnly => exact follows_pure ⟨h, rfl⟩
    | ending ending => exact follows_pure ⟨h, trivial⟩
  | active name =>
    cases event with
    | message m =>
      exact Follows.bind ((proceeds_broadcast h rfl rfl).mono fun after _ h =>
        follows_pure ⟨h, rfl⟩)
    | ending ending => exact follows_pure ⟨h, rfl⟩
  | closing name outcome => exact follows_pure ⟨h, rfl⟩
  | closed outcome => exact follows_pure ⟨h, trivial⟩

theorem proceeds_wrapUp {call : Call} {state : State} {name? : Option Name} (h : Clear heard past)
    (hstate : (Resting.session { session with state }).Keeps name?) :
    (session.wrapUp state).Follows (call.Proceeds policy) (fun after state => Clear heard after ∧
      (Resting.session { session with state }).Keeps name?) past := by
  have hfinish : ∀ {outcome : Outcome} {past : List BroadcastChat.Event}, Clear heard past →
      (session.finish (.closed outcome)).Follows (call.Proceeds policy) (fun after state =>
        Clear heard after ∧ (Resting.session { session with state }).Keeps name?) past := by
    intro outcome past h
    refine h.follows_act trivial fun wasOpen h => ?_
    exact h.follows_act trivial fun _ h => follows_pure ⟨h, trivial⟩
  cases state with
  | awaitingHello => exact follows_pure ⟨h, hstate⟩
  | active name => exact follows_pure ⟨h, hstate⟩
  | closing name outcome => exact h.follows_act trivial fun removed h => hfinish h
  | closed outcome => exact hfinish h

/-- **A turn of a session goes round once at most, under the session's name.** -/
theorem proceeds_turn (h : Clear none past) :
    (session.turn policy).Follows ((Call.turn session).Proceeds policy) (fun after turned =>
      (Call.turn session).Concludes after (.session (turned.getD session))) past := by
  refine Follows.bind ((proceeds_nextEvent h).mono fun after event h => ?_)
  cases event with
  | none =>
    refine follows_pure ⟨none, h, ?_⟩
    obtain ⟨endpoint, inbound, state⟩ := session
    cases state <;> trivial
  | some event =>
    refine Follows.bind ((proceeds_onEvent h).mono fun after state ⟨h, hstate⟩ => ?_)
    refine Follows.bind ((proceeds_wrapUp h hstate).mono fun after state ⟨h, hstate⟩ => ?_)
    exact follows_pure ⟨_, h, hstate⟩

end Session

/-- **Every call goes round its recipients in order**, and is done when the round is. -/
theorem Call.proceeds_program (settings : HubSettings) (call : Call) :
    (call.program settings).Follows (call.Proceeds settings.policy) call.Concludes [] := by
  cases call with
  | connect inbound =>
    refine Program.Follows.bind ((Session.proceeds_start settings.capacity inbound clear_nil).mono
      fun after session ⟨h, hstate⟩ => Program.follows_pure ⟨none, h, ?_⟩)
    simp only [Resting.Keeps, hstate]
    rfl
  | turn session =>
    exact Program.Follows.bind ((Session.proceeds_turn clear_nil).mono fun after turned h =>
      Program.follows_pure h)
  | openListener name =>
    refine Program.Follows.bind ((Program.proceeds_openListener settings.capacity name
      clear_nil).mono fun after listener ⟨h, hname⟩ => Program.follows_pure ⟨none, h, ?_⟩)
    rw [Resting.Keeps, hname]
    rfl
  | letGo listener =>
    exact Program.Follows.bind ((Program.proceeds_letGo listener clear_nil).mono fun after _ h =>
      Program.follows_pure ⟨none, h, trivial⟩)
  | submit message =>
    exact Program.Follows.bind ((Program.proceeds_submit clear_nil).mono fun after _ h =>
      Program.follows_pure ⟨none, h, trivial⟩)
  | broadcast message =>
    exact Program.Follows.bind ((Program.proceeds_broadcast clear_nil rfl rfl).mono
      fun after _ h => Program.follows_pure ⟨none, h, trivial⟩)
  | shutDown =>
    exact Program.Follows.bind ((Program.proceeds_shutDown clear_nil).mono fun after _ h =>
      Program.follows_pure ⟨none, h, trivial⟩)

end BroadcastChat
