/-
# Supersession

However the actions of many tasks interleave, nobody takes a name away from
its holder by mistake. What a task may do next depends on what it has done for
its call so far (`Program.Follows`): it removes an endpoint's binding only
after a delivery to that very endpoint failed, after it saw it closed on
behalf of a sender without a session, or at the end of the endpoint's own
session or listener (`Cause`). Since a removal names the endpoint, it never
hits a newer one, and since a registration replaces its predecessor in one
action, a name that is taken over is never free in between.

When all tasks are at rest, the last endpoint registered under a name is the
only one that may be open.

Key definitions: `Program.Follows`, `Call.Ends`, `Cause`, `Call.Rule`,
`World.Task.Lawful`.
Key theorems: `Call.follows_program`, `World.Task.lawful`, `World.unbound_by`,
`supersession`.
-/
import BroadcastChat.Proofs.Accounts
import BroadcastChat.Proofs.Kinds

namespace BroadcastChat

/-! ### What a program does next depends on what it did -/

namespace Program

variable {α β : Type} {rule : List Event → Action → Prop} {ends : List Event → α → Prop}
  {past : List Event} {p : Program α}

/-- Whatever its actions are answered, each of them is allowed by the rule after those before, and
the program ends with a past and a value as required. -/
def Follows (rule : List Event → Action → Prop) (ends : List Event → α → Prop) :
    List Event → Program α → Prop
  | past, .done value => ends past value
  | past, .step action next => rule past action ∧
      ∀ answer, (next answer).Follows rule ends (past ++ [⟨action, answer⟩])

theorem follows_pure {value : α} (h : ends past value) :
    (pure value : Program α).Follows rule ends past := h

theorem follows_act {action : Action} {k : action.Answer → Program α} (ha : rule past action)
    (hk : ∀ answer, (k answer).Follows rule ends (past ++ [⟨action, answer⟩])) :
    (act action >>= k).Follows rule ends past := ⟨ha, hk⟩

theorem Follows.mono {ends' : List Event → α → Prop} (h : p.Follows rule ends past)
    (hends : ∀ past value, ends past value → ends' past value) : p.Follows rule ends' past := by
  induction p generalizing past with
  | done value => exact hends past value h
  | step action next ih => exact ⟨h.1, fun answer => ih answer (h.2 answer)⟩

theorem Follows.bind {ends : List Event → β → Prop} {k : α → Program β}
    (h : p.Follows rule (fun past value => (k value).Follows rule ends past) past) :
    (p >>= k).Follows rule ends past := by
  induction p generalizing past with
  | done value => exact h
  | step action next ih => exact ⟨h.1, fun answer => ih answer (h.2 answer)⟩

/-- A program whose kinds of actions are always allowed; what was done before stays done. -/
theorem Within.follows {kinds : List Action.Kind} (h : p.Within kinds)
    (hrule : ∀ past action, action.kind ∈ kinds → rule past action) (past : List Event) :
    p.Follows rule (fun after _ => past ⊆ after) past := by
  have hgrow : ∀ before, before ⊆ past →
      p.Follows rule (fun after _ => before ⊆ after) past := by
    induction p generalizing past with
    | done value => exact fun before hsub => hsub
    | step action next ih =>
      refine fun before hsub => ⟨hrule past action h.1, fun answer => ?_⟩
      refine ih answer (h.2 answer) _ before fun event hm => ?_
      exact List.mem_append_left _ (hsub hm)
  exact hgrow past (List.Subset.refl past)

end Program

/-! ### Who may remove a binding -/

/-- Whether a task has seen that a session has to end. -/
def SawEnding (past : List Event) (session : Session) : Prop :=
  ⟨.isStopped, true⟩ ∈ past ∨ ⟨.isClosed session.endpoint, true⟩ ∈ past ∨
    ∃ next : Inbound.Next, ⟨.receive session.inbound, next⟩ ∈ past ∧ next.isEnding = true

/-- Whether the call is about to end the endpoint's own session or listener. -/
def Call.Ends (past : List Event) (e : EndpointId) : Call → Prop
  | .turn session => session.endpoint = e ∧ SawEnding past session
  | .letGo listener => listener.endpoint = e
  | .openListener _ => (∃ capacity, ⟨.create capacity, e⟩ ∈ past) ∧ ⟨.isStopped, true⟩ ∈ past
  | _ => False

/-- Why a task may remove an endpoint's binding. -/
inductive Cause (call : Call) (past : List Event) (e : EndpointId) : Prop where
  /-- The endpoint did not take the task's delivery. -/
  | refused {delivery : Delivery} {refusal : Refusal}
      (h : ⟨.deliver e delivery, .error refusal⟩ ∈ past)
  /-- The task submits for a sender whose endpoint it saw closed. -/
  | seenClosed {message : Message} (hc : call = .submit message) (h : ⟨.isClosed e, true⟩ ∈ past)
  /-- The endpoint's owner goes. -/
  | teardown (h : call.Ends past e)

/-- What a call may do after this past. -/
def Call.Rule (call : Call) (past : List Event) (action : Action) : Prop :=
  (∀ n e, action = .removeIfCurrent n e → Cause call past e) ∧ (action = .drain → call = .shutDown)

namespace Call

variable {call : Call} {past : List Event}

/-- Everything but removing a binding and emptying the registry is allowed. -/
theorem rule_of_kind {action : Action} (hr : action.kind ≠ .remove) (hd : action.kind ≠ .drain) :
    call.Rule past action := by
  refine ⟨?_, ?_⟩
  · rintro n e rfl
    exact absurd rfl hr
  · rintro rfl
    exact absurd rfl hd

theorem follows_other {α : Type} {ends : List Event → α → Prop} {action : Action}
    {k : action.Answer → Program α} (ha : action.kind ≠ .remove ∧ action.kind ≠ .drain)
    (hk : ∀ answer, (k answer).Follows call.Rule ends (past ++ [⟨action, answer⟩])) :
    (Program.act action >>= k).Follows call.Rule ends past :=
  Program.follows_act (rule_of_kind ha.1 ha.2) hk

theorem rule_remove {n : Name} {e : EndpointId} (h : Cause call past e) :
    call.Rule past (.removeIfCurrent n e) := by
  refine ⟨?_, fun hd => by cases hd⟩
  intro n' e' heq
  cases heq
  exact h

theorem follows_of_within {α : Type} {p : Program α} {kinds : List Action.Kind}
    (h : p.Within kinds) (hr : .remove ∉ kinds) (hd : .drain ∉ kinds) (past : List Event) :
    p.Follows call.Rule (fun after _ => past ⊆ after) past := by
  refine h.follows (fun past action hm => rule_of_kind ?_ ?_) past
  · exact fun heq => hr (heq ▸ hm)
  · exact fun heq => hd (heq ▸ hm)

end Call

/-! ### The hub's programs -/

section

variable {call : Call}

open Program

theorem Program.follows_handOut (delivery : Delivery) (bindings : List Binding) (report : Report)
    (past : List Event) :
    (handOut delivery report bindings).Follows call.Rule (fun _ _ => True) past := by
  induction bindings generalizing report past with
  | nil => exact follows_pure trivial
  | cons b rest ih =>
    obtain ⟨name, endpoint⟩ := b
    refine Call.follows_other (by simp) fun answer => ?_
    cases answer with
    | ok u => exact ih _ _
    | error refusal =>
      have hrefused : ⟨.deliver endpoint delivery, .error refusal⟩ ∈
          past ++ [⟨.deliver endpoint delivery, .error refusal⟩] :=
        List.mem_append_right _ (List.mem_singleton.2 rfl)
      refine follows_act (Call.rule_remove (.refused hrefused)) fun removed => ?_
      exact Call.follows_other (by simp) fun wasOpen => ih _ _

theorem Program.follows_broadcast (message : Message) (past : List Event) :
    (broadcast message).Follows call.Rule (fun _ _ => True) past := by
  refine Call.follows_other (by simp) fun time => ?_
  exact Call.follows_other (by simp) fun recipients => follows_handOut _ _ _ _

theorem Program.follows_submit (message : Message) (past : List Event) :
    (submit message).Follows (Call.submit message).Rule (fun _ _ => True) past := by
  refine Call.follows_other (by simp) fun holder => ?_
  cases holder with
  | none => exact follows_pure trivial
  | some endpoint =>
    refine Call.follows_other (by simp) fun closed => ?_
    cases closed with
    | true =>
      have hseen : ⟨.isClosed endpoint, true⟩ ∈
          past ++ [⟨.lookup message.sender, some endpoint⟩] ++ [⟨.isClosed endpoint, true⟩] :=
        List.mem_append_right _ (List.mem_singleton.2 rfl)
      refine follows_act (Call.rule_remove (.seenClosed rfl hseen)) ?_
      exact fun removed => follows_pure trivial
    | false =>
      refine Follows.bind ((follows_broadcast message _).mono ?_)
      exact fun past report _ => follows_pure trivial

theorem Program.follows_letGo {listener : Listener} {past : List Event}
    (h : Cause call past listener.endpoint) :
    (letGo listener).Follows call.Rule (fun _ _ => True) past := by
  have hlast : ∀ past, (close listener.endpoint >>= fun _ => drop listener.endpoint).Follows
      call.Rule (fun _ _ => True) past := by
    intro past
    have hwithin : (close listener.endpoint >>= fun _ => drop listener.endpoint).Within
        [.close, .drop] :=
      within_act_bind (by simp) fun _ => within_act (by simp)
    exact (Call.follows_of_within hwithin (by decide) (by decide) past).mono fun _ _ _ => trivial
  unfold letGo
  by_cases henrolled : listener.enrolled = true
  · rw [if_pos henrolled]
    exact follows_act (Call.rule_remove h) fun removed => hlast _
  · rw [if_neg henrolled]
    exact hlast past

theorem Program.follows_closedListener (name : Name) (past : List Event) :
    (closedListener name).Follows call.Rule (fun _ _ => True) past :=
  (Call.follows_of_within (within_closedListener name) (by decide) (by decide) past).mono
    fun _ _ _ => trivial

theorem Program.follows_subscribe (capacity : Nat) (name : Name) (past : List Event) :
    (subscribe capacity name).Follows call.Rule (fun after listener =>
      ⟨.create capacity, listener.endpoint⟩ ∈ after) past := by
  refine Call.follows_other (by simp) fun endpoint => ?_
  refine Follows.bind ((Call.follows_of_within (within_takeOver name endpoint) (by decide)
    (by decide) _).mono fun after _ hsub => follows_pure (hsub ?_))
  exact List.mem_append_right _ (List.mem_singleton.2 rfl)

/-- A listener that was opened on a hub that stopped meanwhile is given back by its maker. -/
theorem Program.follows_openListener (capacity : Nat) (name : Name) (past : List Event) :
    (openListener capacity name).Follows (Call.openListener name).Rule (fun _ _ => True) past := by
  refine Call.follows_other (by simp) fun stopped => ?_
  cases stopped with
  | true => exact follows_closedListener name _
  | false =>
    refine Follows.bind ((follows_subscribe capacity name _).mono fun past listener hmade => ?_)
    refine Call.follows_other (by simp) fun stopped => ?_
    cases stopped with
    | true =>
      have hends : (Call.openListener name).Ends (past ++ [⟨.isStopped, true⟩])
          listener.endpoint :=
        ⟨⟨capacity, List.mem_append_left _ hmade⟩,
          List.mem_append_right _ (List.mem_singleton.2 rfl)⟩
      refine Follows.bind ((follows_letGo (.teardown hends)).mono ?_)
      exact fun past _ _ => follows_closedListener name past
    | false => exact follows_pure trivial

theorem Program.follows_shutDown (past : List Event) :
    shutDown.Follows Call.shutDown.Rule (fun _ _ => True) past := by
  refine Call.follows_other (by simp) fun _ => ?_
  have hdrain : ∀ past, Call.shutDown.Rule past .drain := by
    refine fun past => ⟨?_, fun _ => rfl⟩
    intro n e heq
    cases heq
  refine follows_act (hdrain _) fun bindings => ?_
  exact (Call.follows_of_within (within_closeAll bindings) (by decide) (by decide) _).mono
    fun _ _ _ => trivial

end

/-! ### Sessions -/

namespace Session

open Program

variable {call : Call}

theorem follows_start (capacity : Nat) (inbound : InboundId) (past : List BroadcastChat.Event) :
    (start capacity inbound).Follows call.Rule (fun _ session => session.Rests) past := by
  refine Call.follows_other (by simp) fun endpoint => ?_
  exact Call.follows_other (by simp) fun _ => follows_pure (by simp [Rests])

theorem follows_nextEvent (session : Session) (past : List BroadcastChat.Event) :
    session.nextEvent.Follows call.Rule (fun after event =>
      ∀ ending, event = some (.ending ending) → SawEnding after session) past := by
  have hlast : ∀ {past : List BroadcastChat.Event} {event : BroadcastChat.Event},
      event ∈ past ++ [event] := List.mem_append_right _ (List.mem_singleton.2 rfl)
  refine Call.follows_other (by simp) fun stopped => ?_
  cases stopped with
  | true => exact follows_pure fun ending _ => .inl hlast
  | false =>
    refine Call.follows_other (by simp) fun closed => ?_
    cases closed with
    | true => exact follows_pure fun ending _ => .inr (.inl hlast)
    | false =>
      refine Call.follows_other (by simp) fun next => ?_
      have hseen : next.isEnding = true → SawEnding (past ++ [⟨.isStopped, false⟩] ++
          [⟨.isClosed session.endpoint, false⟩] ++ [⟨.receive session.inbound, next⟩]) session :=
        fun hending => .inr (.inr ⟨next, hlast, hending⟩)
      cases next with
      | arrival arrival =>
        refine follows_pure fun ending heq => hseen ?_
        cases arrival with
        | message m => cases heq
        | cancelled => rfl
        | failed reason => rfl
      | ended => exact follows_pure fun ending _ => hseen rfl
      | waiting => exact follows_pure fun ending heq => by cases heq

theorem follows_onEvent (policy : GreetingPolicy) {session : Session} (hrests : session.Rests)
    {event : Event} {past : List BroadcastChat.Event}
    (h : ∀ ending, event = .ending ending → SawEnding past session) :
    (session.onEvent policy event).Follows call.Rule (fun after state =>
      ∀ name outcome, state = .closing name outcome → SawEnding after session) past := by
  unfold onEvent
  split
  · rename_i hello _
    refine Follows.bind ((Call.follows_of_within (within_takeOver hello.sender session.endpoint)
      (by decide) (by decide) past).mono fun after _ _ => ?_)
    cases policy with
    | broadcast =>
      refine Follows.bind ((follows_broadcast hello after).mono fun after _ _ => ?_)
      exact follows_pure fun name outcome heq => by cases heq
    | registerOnly => exact follows_pure fun name outcome heq => by cases heq
  · exact follows_pure fun name outcome heq => by cases heq
  · refine Follows.bind ((follows_broadcast _ past).mono fun after _ _ => ?_)
    exact follows_pure fun name outcome heq => by cases heq
  · exact follows_pure fun name outcome _ => h _ rfl
  · exact follows_pure fun name outcome heq => absurd heq (hrests name outcome)

/-- A session removes nobody but itself, and only if it closes. -/
theorem follows_wrapUp {session : Session} {state : State} {past : List BroadcastChat.Event}
    (h : ∀ name outcome, state = .closing name outcome → Cause call past session.endpoint) :
    (session.wrapUp state).Follows call.Rule (fun _ after =>
      ∀ name outcome, after ≠ .closing name outcome) past := by
  have hfinish : ∀ {outcome : Outcome} (past : List BroadcastChat.Event),
      (session.finish (.closed outcome)).Follows call.Rule
        (fun _ after => ∀ name outcome, after ≠ .closing name outcome) past := by
    intro outcome past
    refine Call.follows_other (by simp) fun wasOpen => ?_
    exact Call.follows_other (by simp) fun _ => follows_pure (by simp)
  cases state with
  | awaitingHello => exact follows_pure (by simp)
  | active name => exact follows_pure (by simp)
  | closing name outcome =>
    exact follows_act (Call.rule_remove (h name outcome rfl)) fun removed => hfinish _
  | closed outcome => exact hfinish past

/-- **A session removes an endpoint only after a delivery to it failed, or its own at its end.** -/
theorem follows_turn (policy : GreetingPolicy) {session : Session} (hrests : session.Rests)
    (past : List BroadcastChat.Event) :
    (session.turn policy).Follows (Call.turn session).Rule (fun _ turned =>
      (turned.getD session).Rests) past := by
  refine Follows.bind ((session.follows_nextEvent past).mono fun after event hseen => ?_)
  cases event with
  | none => exact follows_pure hrests
  | some event =>
    have hending : ∀ ending, event = .ending ending → SawEnding after session := by
      rintro ending rfl
      exact hseen ending rfl
    refine Follows.bind ((follows_onEvent policy hrests hending).mono
      fun after state hclosing => ?_)
    have hcause : ∀ name outcome, state = .closing name outcome →
        Cause (.turn session) after session.endpoint :=
      fun name outcome heq => .teardown ⟨rfl, hclosing name outcome heq⟩
    refine Follows.bind ((follows_wrapUp hcause).mono fun after state hrests => ?_)
    exact follows_pure hrests

end Session

/-- **What every call does is allowed by its rule.** -/
theorem Call.follows_program (settings : HubSettings) {call : Call}
    (h : ∀ session, call = .turn session → session.Rests) :
    (call.program settings).Follows call.Rule (fun _ resting => resting.Calm) [] := by
  cases call with
  | connect inbound =>
    refine Program.Follows.bind ((Session.follows_start settings.capacity inbound []).mono ?_)
    exact fun past session hrests => Program.follows_pure hrests
  | turn session =>
    refine Program.Follows.bind ((Session.follows_turn settings.policy (h session rfl) []).mono ?_)
    exact fun past turned hrests => Program.follows_pure hrests
  | openListener name =>
    refine Program.Follows.bind ((Program.follows_openListener settings.capacity name []).mono ?_)
    exact fun past listener _ => Program.follows_pure trivial
  | letGo listener =>
    have hends : (Call.letGo listener).Ends [] listener.endpoint := rfl
    refine Program.Follows.bind ((Program.follows_letGo (.teardown hends)).mono ?_)
    exact fun past _ _ => Program.follows_pure trivial
  | submit message =>
    refine Program.Follows.bind ((Program.follows_submit message []).mono ?_)
    exact fun past _ _ => Program.follows_pure trivial
  | broadcast message =>
    refine Program.Follows.bind ((Program.follows_broadcast message []).mono ?_)
    exact fun past _ _ => Program.follows_pure trivial
  | shutDown =>
    refine Program.Follows.bind ((Program.follows_shutDown []).mono ?_)
    exact fun past _ _ => Program.follows_pure trivial

/-! ### Every step of a run -/

namespace World.Task

/-- What is left of a task's call is allowed after what the task did for it. -/
def Lawful : World.Task → Prop
  | .idle resting => resting.Calm
  | .busy call past rest => rest.Follows call.Rule (fun _ resting => resting.Calm) past

theorem lawful_goOn {call : Call} {past : List Event} {rest : Program Resting}
    (h : rest.Follows call.Rule (fun _ resting => resting.Calm) past) :
    (goOn call past rest).Lawful := by
  cases rest with
  | done resting => exact h
  | step action next => exact h

/-- **Every task acts lawfully at every time.** -/
theorem lawful (settings : HubSettings) : World.Task.Invariant settings (fun _ => True) Lawful where
  connect inbound := by
    refine lawful_goOn (Call.follows_program settings fun session heq => ?_)
    cases heq
  ask call hp _ := by
    refine lawful_goOn (Call.follows_program settings fun session heq => ?_)
    rw [heq] at hp
    cases hp
  wake session hrests _ := by
    refine lawful_goOn (Call.follows_program settings fun other heq => ?_)
    cases heq
    exact hrests
  letGo listener _ := by
    refine lawful_goOn (Call.follows_program settings fun session heq => ?_)
    cases heq
  act call past action next h answer := lawful_goOn (h.2 answer)

/-- Whether the task is in the middle of this call. -/
def Does (call : Call) : World.Task → Prop
  | .idle _ => False
  | .busy other _ _ => other = call

theorem not_does_goOn {call other : Call} {past : List Event} {rest : Program Resting}
    (h : other ≠ call) : ¬(goOn other past rest).Does call := by
  cases rest with
  | done resting => exact id
  | step action next => exact h

/-- If nobody asks for a shutdown, no task does one. -/
theorem not_shutDown (settings : HubSettings) :
    World.Task.Invariant settings (· ≠ .shutDown) fun task => ¬task.Does .shutDown where
  connect _ := not_does_goOn (by simp)
  ask _ _ hasked := not_does_goOn hasked
  wake _ _ _ := not_does_goOn (by simp)
  letGo _ _ := not_does_goOn (by simp)
  act _ _ _ _ h _ := not_does_goOn h

end World.Task

namespace World

/-- In this step a task registers the endpoint under the name. -/
def Registers (world : World) (choice : Choice) (n : Name) (e : EndpointId) : Prop :=
  ∃ task time call past, choice = .act task time ∧
    world.next? task = some (call, past, .register n e)

/-- In this step a task removes the endpoint's binding, and it has a cause. -/
def Removes (world : World) (choice : Choice) (n : Name) (e : EndpointId) : Prop :=
  ∃ task time call past, choice = .act task time ∧
    world.next? task = some (call, past, .removeIfCurrent n e) ∧ Cause call past e

/-- In this step somebody who stops the hub empties the registry. -/
def Sweeps (world : World) (choice : Choice) : Prop :=
  ∃ task time past, choice = .act task time ∧ world.next? task = some (.shutDown, past, .drain)

variable {world : World} {choice : Choice} {n : Name} {e : EndpointId}

/-- Whoever takes a name over holds it from then on. -/
theorem Registers.binds (h : world.Registers choice n e) :
    (world.step choice).store.Binds n e := by
  obtain ⟨task, time, call, past, rfl, hnext⟩ := h
  obtain ⟨next, hget⟩ := exists_next hnext
  rw [step_act hget]
  have hbinds : ((Action.register n e).perform time world.store).2.Binds n e :=
    Books.binds_register.2 (by rw [if_pos rfl])
  exact hbinds

/-- **How a binding ends**: by a registration under its name, by its removal for a cause, or by a
shutdown. -/
theorem unbound_by (hlawful : ∀ task ∈ world.tasks, task.Lawful) (hb : world.store.Binds n e)
    (hn : ¬(world.step choice).store.Binds n e) :
    (∃ e', world.Registers choice n e') ∨ world.Removes choice n e ∨ world.Sweeps choice := by
  by_cases hact : ∃ task time, choice = .act task time
  · obtain ⟨task, time, rfl⟩ := hact
    cases hnext : world.next? task with
    | none =>
      rw [step_act_of_none hnext] at hn
      exact absurd hb hn
    | some found =>
      obtain ⟨call, past, action⟩ := found
      obtain ⟨next, hget⟩ := exists_next hnext
      have hrule : call.Rule past action := (hlawful _ (List.mem_of_getElem? hget)).1
      by_cases hreg : ∃ e', action = .register n e'
      · obtain ⟨e', rfl⟩ := hreg
        exact .inl ⟨e', task, time, call, past, rfl, hnext⟩
      · by_cases hremove : action = .removeIfCurrent n e
        · subst hremove
          exact .inr (.inl ⟨task, time, call, past, rfl, hnext, hrule.1 n e rfl⟩)
        · by_cases hdrain : action = .drain
          · subst hdrain
            rw [hrule.2 rfl] at hnext
            exact .inr (.inr ⟨task, time, past, rfl, hnext⟩)
          · rw [step_act hget] at hn
            refine absurd (Action.binds_perform hb (fun e' heq => ?_) hremove hdrain) hn
            exact hreg ⟨e', heq⟩
  · have hsame : (world.step choice).store.registry = world.store.registry :=
      (step_of_not_act fun task time heq => hact ⟨task, time, heq⟩).1
    rw [Store.Binds, hsame] at hn
    exact absurd hb hn

/-- Every task acts lawfully, and nobody is about to stop the hub. -/
structure Orderly (world : World) : Prop where
  lawful : ∀ task ∈ world.tasks, task.Lawful
  running : ∀ task ∈ world.tasks, ¬task.Does .shutDown

theorem Orderly.step (h : world.Orderly) (hc : choice ≠ .ask .shutDown) :
    (world.step choice).Orderly where
  lawful := (World.Task.lawful world.settings).step rfl h.lawful fun _ _ => trivial
  running := by
    refine (World.Task.not_shutDown world.settings).step rfl h.running ?_
    rintro call rfl rfl
    exact hc rfl

theorem Orderly.run {choices : List Choice} (hc : .ask .shutDown ∉ choices) (h : world.Orderly) :
    (world.run choices).Orderly where
  lawful := (World.Task.lawful world.settings).run choices rfl h.lawful fun _ _ => trivial
  running := by
    refine (World.Task.not_shutDown world.settings).run choices rfl h.running ?_
    rintro call hm rfl
    exact hc hm

/-- As long as nobody stops the hub, a binding ends by a registration or for a cause. -/
theorem Orderly.unbound_by (h : world.Orderly) (hb : world.store.Binds n e)
    (hn : ¬(world.step choice).store.Binds n e) :
    (∃ e', world.Registers choice n e') ∨ world.Removes choice n e := by
  rcases World.unbound_by h.lawful hb hn with hreg | hremove | ⟨task, _, _, _, hnext⟩
  · exact .inl hreg
  · exact .inr hremove
  · obtain ⟨next, hget⟩ := exists_next hnext
    exact absurd rfl (h.running _ (List.mem_of_getElem? hget))

/-- **A name that is held stays held**, however often it is taken over, until its holder of that
time is removed for a cause. -/
theorem Orderly.held_run (choices : List Choice) (hc : .ask .shutDown ∉ choices)
    (h : world.Orderly) (hb : world.store.Binds n e) :
    (∃ e', (world.run choices).store.Binds n e') ∨
      ∃ before choice after e', choices = before ++ choice :: after ∧
        (world.run before).store.Binds n e' ∧ (world.run before).Removes choice n e' := by
  induction choices generalizing world e with
  | nil => exact .inl ⟨e, hb⟩
  | cons choice rest ih =>
    rw [List.mem_cons, not_or] at hc
    have hnext : (world.step choice).Orderly := h.step (Ne.symm hc.1)
    have hlater : ∀ {x}, (world.step choice).store.Binds n x →
        (∃ e', (world.run (choice :: rest)).store.Binds n e') ∨
          ∃ before choice' after e', choice :: rest = before ++ choice' :: after ∧
            (world.run before).store.Binds n e' ∧ (world.run before).Removes choice' n e' := by
      intro x hx
      rcases ih hc.2 hnext hx with hheld | ⟨before, choice', after, e', rfl, hb', hremove⟩
      · exact .inl hheld
      · exact .inr ⟨choice :: before, choice', after, e', rfl, hb', hremove⟩
    by_cases hstill : (world.step choice).store.Binds n e
    · exact hlater hstill
    · rcases h.unbound_by hb hstill with ⟨e', hreg⟩ | hremove
      · exact hlater hreg.binds
      · exact .inr ⟨[], choice, rest, e, rfl, hb, hremove⟩

/-- Whoever is open when all tasks are at rest was registered last under its name. -/
theorem Sound.last_of_open (h : world.Sound) (hrest : world.AtRest)
    (hr : Registered world.log n e) (hc : ¬world.store.Closed e) :
    world.store.Binds n e ∧ lastHolder world.log n = some e := by
  have hb : world.store.Binds n e := (h.closed_or_binds hrest hr).resolve_left hc
  obtain ⟨notes, _, hbooks⟩ := h
  exact ⟨hb, hbooks.last_of_binds hb⟩

end World

/-- **Supersession.** In every run in which nobody stops the hub, in whatever order the tasks act:
a binding ends only by a newer registration under its name, or by its own removal by a task that
failed to deliver to the endpoint, or that submits and saw it closed, or that ends the endpoint's
own session or listener. So a name that is taken over, be it ever so often, is held at every moment
until its holder of that time is removed for such a cause. And when all tasks are at rest, of all
endpoints ever registered under a name at most one is open, and that one was registered last. -/
theorem supersession (settings : HubSettings) (choices : List Choice)
    (h : .ask .shutDown ∉ choices) :
    let world := (World.new settings).run choices
    (∀ choice n e, world.store.Binds n e → ¬(world.step choice).store.Binds n e →
      (∃ e', world.Registers choice n e' ∧ (world.step choice).store.Binds n e') ∨
        world.Removes choice n e) ∧
    (∀ more n e, .ask .shutDown ∉ more → world.store.Binds n e →
      (∃ e', (world.run more).store.Binds n e') ∨
        ∃ before choice after e', more = before ++ choice :: after ∧
          (world.run before).store.Binds n e' ∧ (world.run before).Removes choice n e') ∧
    (world.AtRest → ∀ n,
      (∀ e, Registered world.log n e → ¬world.store.Closed e →
        lastHolder world.log n = some e) ∧
      ∀ e e', Registered world.log n e → Registered world.log n e' → ¬world.store.Closed e →
        ¬world.store.Closed e' → e = e') := by
  intro world
  have hsound : world.Sound := World.sound_run settings choices
  have horderly : world.Orderly := by
    refine World.Orderly.run h ⟨?_, ?_⟩ <;>
      · intro task hm
        cases hm
  refine ⟨?_, ?_, ?_⟩
  · intro choice n e hb hn
    rcases horderly.unbound_by hb hn with ⟨e', hreg⟩ | hremove
    · exact .inl ⟨e', hreg, hreg.binds⟩
    · exact .inr hremove
  · exact fun more n e hmore hb => horderly.held_run more hmore hb
  · intro hrest n
    have hlast : ∀ e, Registered world.log n e → ¬world.store.Closed e →
        lastHolder world.log n = some e :=
      fun e hr hc => (hsound.last_of_open hrest hr hc).2
    refine ⟨hlast, fun e e' hr hr' hc hc' => ?_⟩
    exact Option.some.inj ((hlast e hr hc).symm.trans (hlast e' hr' hc'))

namespace Sample

/-- Two listeners are opened under one name at the same time; the first registers and is superseded
before it looks whether the hub has stopped. -/
def racing : List Choice :=
  [.ask (.openListener alice), .ask (.openListener alice), .act 0 ⟨1⟩, .act 1 ⟨1⟩, .act 1 ⟨2⟩,
    .act 0 ⟨2⟩, .act 0 ⟨3⟩, .act 1 ⟨3⟩, .act 0 ⟨4⟩, .act 1 ⟨4⟩, .act 1 ⟨5⟩]

end Sample

/-- The two listeners of a race are both registered, and only the later one may be open. -/
theorem supersession_racing :
    ((World.new {}).run Sample.racing).AtRest ∧
      Registered ((World.new {}).run Sample.racing).log Sample.alice ⟨1⟩ ∧
      ((World.new {}).run Sample.racing).store.Closed ⟨1⟩ := by
  have hrest : ((World.new {}).run Sample.racing).AtRest := by decide
  have hreg : Registered ((World.new {}).run Sample.racing).log Sample.alice ⟨1⟩ := by decide
  obtain ⟨_, _, hlast⟩ := supersession {} Sample.racing (by decide)
  refine ⟨hrest, hreg, Decidable.byContradiction fun hc => ?_⟩
  have hother := (hlast hrest Sample.alice).1 ⟨1⟩ hreg hc
  exact absurd hother (by decide)

end BroadcastChat
