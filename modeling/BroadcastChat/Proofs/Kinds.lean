/-
# Which kinds of actions a program uses

What cannot be in a program's trace is read off the program: a broadcast
registers nobody, taking a name over delivers nothing, and only stopping the
hub empties the registry. `Program.Within` lists the kinds of actions that a
program uses, whatever the answers, with one lemma for each program.

Key definitions: `Action.Kind`, `Program.Within`, `OfKinds`.
Key theorems: `Program.Within.bind`, `Program.Within.ofKinds`,
`OfKinds.accepted_eq`, `OfKinds.registrations_eq`, `Program.Within.has_of_run`.
-/
import BroadcastChat.Proofs.Trace
import BroadcastChat.Hub.Session

namespace BroadcastChat

/-- What an action is about; `other` changes nothing but waits. -/
inductive Action.Kind where
  | create
  | register
  | remove
  | drain
  | deliver
  | close
  | drop
  | stop
  | receive
  | now
  | other
  deriving DecidableEq

/-- What an action is about. -/
@[simp]
def Action.kind : Action → Action.Kind
  | .create _ => .create
  | .register _ _ => .register
  | .removeIfCurrent _ _ => .remove
  | .drain => .drain
  | .deliver _ _ => .deliver
  | .close _ => .close
  | .drop _ => .drop
  | .stop => .stop
  | .receive _ => .receive
  | .now => .now
  | _ => .other

namespace Program

variable {α β : Type} {kinds more : List Action.Kind} {p : Program α}

/-- Whatever its actions are answered, the program uses only actions of these kinds. -/
def Within (kinds : List Action.Kind) : Program α → Prop
  | .done _ => True
  | .step action next => action.kind ∈ kinds ∧ ∀ answer, (next answer).Within kinds

theorem within_pure {value : α} : (pure value : Program α).Within kinds := trivial

theorem within_act {action : Action} (h : action.kind ∈ kinds) : (act action).Within kinds :=
  ⟨h, fun _ => trivial⟩

theorem Within.bind {k : α → Program β} (h : p.Within kinds)
    (hk : ∀ value, (k value).Within kinds) : (p >>= k).Within kinds := by
  induction p with
  | done value => exact hk value
  | step action next ih => exact ⟨h.1, fun answer => ih answer (h.2 answer)⟩

theorem within_act_bind {action : Action} {k : action.Answer → Program β}
    (h : action.kind ∈ kinds) (hk : ∀ answer, (k answer).Within kinds) :
    (act action >>= k).Within kinds :=
  (within_act h).bind hk

theorem Within.mono (h : p.Within kinds) (hsub : kinds ⊆ more) : p.Within more := by
  induction p with
  | done value => trivial
  | step action next ih => exact ⟨hsub h.1, fun answer => ih answer (h.2 answer)⟩

theorem Within.kind_mem {time : Timestamp} {store : Store} {event : Event} (h : p.Within kinds)
    (hm : event ∈ p.trace time store) : event.action.kind ∈ kinds := by
  induction p generalizing store with
  | done value => cases hm
  | step action next ih =>
    rcases List.mem_cons.1 hm with rfl | hm
    · exact h.1
    · exact ih _ (h.2 _) hm

end Program

/-! ### What is not in a log -/

/-- All actions of the log are of these kinds. -/
def OfKinds (kinds : List Action.Kind) (log : List Event) : Prop :=
  ∀ event ∈ log, event.action.kind ∈ kinds

namespace OfKinds

variable {kinds more : List Action.Kind} {log rest : List Event}

theorem mono (h : OfKinds kinds log) (hsub : kinds ⊆ more) : OfKinds more log :=
  fun event hm => hsub (h event hm)

theorem append (h : OfKinds kinds log) (h' : OfKinds kinds rest) : OfKinds kinds (log ++ rest) := by
  intro event hm
  rcases List.mem_append.1 hm with hm | hm
  · exact h event hm
  · exact h' event hm

theorem filterMap_eq_nil {γ : Type} {view : Event → Option γ} {kind : Action.Kind}
    (h : OfKinds kinds log) (hk : kind ∉ kinds)
    (hview : ∀ event : Event, event.action.kind ≠ kind → view event = none) :
    log.filterMap view = [] := by
  refine List.filterMap_eq_nil_iff.2 fun event hm => hview event fun heq => hk ?_
  rw [← heq]
  exact h event hm

theorem accepted_eq (h : OfKinds kinds log) (hk : .deliver ∉ kinds) (e : EndpointId) :
    accepted log e = [] := by
  refine h.filterMap_eq_nil hk fun event hne => ?_
  obtain ⟨action, answer⟩ := event
  cases action <;> first | rfl | exact absurd rfl hne

theorem refusals_eq (h : OfKinds kinds log) (hk : .deliver ∉ kinds) : refusals log = [] := by
  refine h.filterMap_eq_nil hk fun event hne => ?_
  obtain ⟨action, answer⟩ := event
  cases action <;> first | rfl | exact absurd rfl hne

theorem registrations_eq (h : OfKinds kinds log) (hk : .register ∉ kinds) :
    registrations log = [] := by
  refine h.filterMap_eq_nil hk fun event hne => ?_
  obtain ⟨action, answer⟩ := event
  cases action <;> first | rfl | exact absurd rfl hne

theorem not_registered (h : OfKinds kinds log) (hk : .register ∉ kinds) (n : Name)
    (e : EndpointId) : ¬Registered log n e := by
  rw [Registered, h.registrations_eq hk]
  exact List.not_mem_nil

theorem drops_eq (h : OfKinds kinds log) (hk : .drop ∉ kinds) : drops log = [] := by
  refine h.filterMap_eq_nil hk fun event hne => ?_
  obtain ⟨action, answer⟩ := event
  cases action <;> first | rfl | exact absurd rfl hne

theorem readings_eq (h : OfKinds kinds log) (hk : .now ∉ kinds) : readings log = [] := by
  refine h.filterMap_eq_nil hk fun event hne => ?_
  obtain ⟨action, answer⟩ := event
  cases action <;> first | rfl | exact absurd rfl hne

theorem not_swept (h : OfKinds kinds log) (hk : .drain ∉ kinds) : ¬Swept log := by
  rintro ⟨event, hm, he⟩
  have hkind := h event hm
  rw [he] at hkind
  exact hk hkind

end OfKinds

/-! ### Where endpoints come from -/

theorem Action.has_of_perform {time : Timestamp} {store : Store} {action : Action} {e : EndpointId}
    (h : action.kind ≠ .create) (hh : (action.perform time store).2.Has e) : store.Has e := by
  cases action with
  | create c => exact absurd rfl h
  | deliver x d =>
    rcases perform_deliver time store x d with hsame | ⟨after, _, htaken⟩
    · rwa [hsame] at hh
    · rw [htaken] at hh
      exact Store.has_update.1 hh
  | close | drop | beginWait | endWait => exact Store.has_update.1 hh
  | _ => exact hh

theorem Program.Within.has_of_run {α : Type} {p : Program α} {kinds : List Action.Kind}
    {time : Timestamp} {store : Store} {e : EndpointId} (h : p.Within kinds) (hk : .create ∉ kinds)
    (hh : (p.run time store).2.Has e) : store.Has e := by
  induction p generalizing store with
  | done value => exact hh
  | step action next ih =>
    exact Action.has_of_perform (fun heq => hk (heq ▸ h.1)) (ih _ (h.2 _) hh)

namespace Program

variable {α β : Type} {kinds : List Action.Kind} {p : Program α} {time : Timestamp} {store : Store}

theorem Within.ofKinds (h : p.Within kinds) : OfKinds kinds (p.trace time store) :=
  fun _ hm => h.kind_mem hm

theorem Within.stopped_eq (h : p.Within kinds) (hk : .stop ∉ kinds) :
    (p.run time store).2.stopped = store.stopped := by
  induction p generalizing store with
  | done value => rfl
  | step action next ih =>
    rw [run_step, ih _ (h.2 _)]
    refine Action.stopped_eq ?_
    rintro rfl
    exact hk h.1

/-! ### What the hub's programs use -/

theorem within_handOut (delivery : Delivery) (report : Report) (recipients : List Binding) :
    (handOut delivery report recipients).Within [.deliver, .remove, .close] := by
  induction recipients generalizing report with
  | nil => exact within_pure
  | cons b rest ih =>
    obtain ⟨name, endpoint⟩ := b
    refine within_act_bind (by simp) fun answer => ?_
    cases answer with
    | ok u => exact ih _
    | error refusal =>
      refine within_act_bind (by simp) fun _ => ?_
      exact within_act_bind (by simp) fun _ => ih _

theorem within_broadcast (message : Message) :
    (broadcast message).Within [.deliver, .remove, .close, .now, .other] := by
  refine within_act_bind (by simp) fun time => ?_
  refine within_act_bind (by simp) fun recipients => ?_
  exact (within_handOut _ _ _).mono (by decide)

theorem within_submit (message : Message) :
    (submit message).Within [.deliver, .remove, .close, .now, .other] := by
  refine within_act_bind (by simp) fun holder => ?_
  cases holder with
  | none => exact within_pure
  | some endpoint =>
    refine within_act_bind (by simp) fun closed => ?_
    cases closed with
    | true => exact within_act_bind (by simp) fun _ => within_pure
    | false => exact Within.bind (within_broadcast message) fun _ => within_pure

theorem within_takeOver (name : Name) (endpoint : EndpointId) :
    (takeOver name endpoint).Within [.register, .close] := by
  refine within_act_bind (by simp) fun superseded => ?_
  cases superseded with
  | none => exact within_pure
  | some previous => exact within_act_bind (by simp) fun _ => within_pure

theorem within_subscribe (capacity : Nat) (name : Name) :
    (subscribe capacity name).Within [.create, .register, .close] := by
  refine within_act_bind (by simp) fun endpoint => ?_
  refine Within.bind ((within_takeOver name endpoint).mono (by decide)) fun _ => ?_
  exact within_pure

theorem within_closedListener (name : Name) :
    (closedListener name).Within [.create, .close] := by
  refine within_act_bind (by simp) fun endpoint => ?_
  exact within_act_bind (by simp) fun _ => within_pure

theorem within_letGo (listener : Listener) :
    (letGo listener).Within [.remove, .close, .drop] := by
  have hlast : (close listener.endpoint >>= fun _ => drop listener.endpoint).Within
      [.remove, .close, .drop] :=
    within_act_bind (by simp) fun _ => within_act (by simp)
  unfold letGo
  by_cases h : listener.enrolled = true
  · rw [if_pos h]
    exact within_act_bind (by simp) fun _ => hlast
  · rw [if_neg h]
    exact hlast

theorem within_openListener (capacity : Nat) (name : Name) :
    (openListener capacity name).Within
      [.create, .register, .remove, .close, .drop, .other] := by
  refine within_act_bind (by simp) fun stopped => ?_
  have hclosed : (closedListener name).Within
      [.create, .register, .remove, .close, .drop, .other] :=
    (within_closedListener name).mono (by decide)
  cases stopped with
  | true => exact hclosed
  | false =>
    refine Within.bind ((within_subscribe capacity name).mono (by decide)) fun listener => ?_
    refine within_act_bind (by simp) fun stopped => ?_
    cases stopped with
    | true => exact Within.bind ((within_letGo listener).mono (by decide)) fun _ => hclosed
    | false => exact within_pure

theorem within_closeAll (bindings : List Binding) : (closeAll bindings).Within [.close] := by
  induction bindings with
  | nil => exact within_pure
  | cons b rest ih => exact within_act_bind (by simp) fun _ => ih

theorem within_shutDown : shutDown.Within [.stop, .drain, .close] := by
  refine within_act_bind (by simp) fun _ => ?_
  refine within_act_bind (by simp) fun bindings => ?_
  exact (within_closeAll bindings).mono (by decide)

end Program

namespace Session

open Program

theorem within_start (capacity : Nat) (inbound : InboundId) :
    (start capacity inbound).Within [.create, .other] := by
  refine within_act_bind (by simp) fun endpoint => ?_
  exact within_act_bind (by simp) fun _ => within_pure

theorem within_nextEvent (session : Session) : session.nextEvent.Within [.receive, .other] := by
  refine within_act_bind (by simp) fun stopped => ?_
  cases stopped with
  | true => exact within_pure
  | false =>
    refine within_act_bind (by simp) fun closed => ?_
    cases closed with
    | true => exact within_pure
    | false =>
      refine within_act_bind (by simp) fun next => ?_
      cases next <;> exact within_pure

theorem within_wrapUp (session : Session) (state : State) :
    (session.wrapUp state).Within [.remove, .close, .other] := by
  have hrelease : (session.release state).Within [.remove, .close, .other] := by
    cases state with
    | closing name outcome => exact within_act_bind (by simp) fun _ => within_pure
    | _ => exact within_pure
  refine Within.bind hrelease fun state => ?_
  cases state with
  | closed outcome =>
    refine within_act_bind (by simp) fun _ => ?_
    exact within_act_bind (by simp) fun _ => within_pure
  | _ => exact within_pure

theorem within_onEvent (policy : GreetingPolicy) (session : Session) (event : Event) :
    (session.onEvent policy event).Within
      [.register, .deliver, .remove, .close, .now, .other] := by
  unfold onEvent
  split
  · refine Within.bind ((within_takeOver _ _).mono (by decide)) fun _ => ?_
    cases policy with
    | broadcast =>
      exact Within.bind ((within_broadcast _).mono (by decide)) fun _ => within_pure
    | registerOnly => exact within_pure
  · exact within_pure
  · exact Within.bind ((within_broadcast _).mono (by decide)) fun _ => within_pure
  · exact within_pure
  · exact within_pure

theorem within_turn (policy : GreetingPolicy) (session : Session) :
    (session.turn policy).Within
      [.register, .deliver, .remove, .close, .receive, .now, .other] := by
  refine Within.bind (session.within_nextEvent.mono (by decide)) fun event => ?_
  cases event with
  | none => exact within_pure
  | some event =>
    refine Within.bind ((within_onEvent policy session event).mono (by decide)) fun state => ?_
    exact Within.bind ((within_wrapUp session state).mono (by decide)) fun _ => within_pure

end Session

end BroadcastChat
