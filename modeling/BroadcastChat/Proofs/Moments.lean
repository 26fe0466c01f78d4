/-
# What one moment means for one endpoint

In a moment of a run somebody may speak (`Moment.spoken?`): a submit that is
accepted, a hello that is broadcast, a message that a session relays. For an
endpoint that holds a name a moment may be the last one (`Moment.silences`):
somebody else registers under the name, its stream is dropped, it is found
full, its own session or listener ends, or the hub stops. Both are read off
the stage and the trace, and every moment is the run of one program on a store
like the stage's (`Moment.exists_run`).

Key definitions: `Moment.spoken?`, `Moment.ends`, `Moment.silences`,
`Moment.read?`, `Moment.IsRun`.
Key theorems: `Moment.silences_iff`, `Moment.exists_run`.
-/
import BroadcastChat.Proofs.Turns

namespace BroadcastChat

theorem Store.unread_read (store : Store) (id e : EndpointId) :
    (if id = e then (store.endpoint id).read.1.delivery? else none).toList ++
        ((store.update id fun _ => (store.endpoint id).read.2).endpoint e).unread =
      (store.endpoint e).unread := by
  by_cases he : id = e
  · subst he
    rw [if_pos rfl]
    refine Eq.trans ?_ (store.endpoint id).unread_read
    congr 1
    rw [Store.endpoint_update]
    split
    · rfl
    · rename_i hh
      -- there is nothing to read from an endpoint that was never made
      have hgone := Store.endpoint_of_not_has fun h => hh ⟨rfl, h⟩
      rw [hgone]
      rfl
  · rw [if_neg he, Store.endpoint_update_of_ne _ (Ne.symm he)]
    rfl

namespace Moment

/-- What is broadcast in the moment, with its stamp. -/
def spoken? (moment : Moment) : Option Delivery :=
  match moment.move with
  | .submit message =>
    match (moment.stage.hub.submit moment.time message).1 with
    | .ok _ => some ⟨message, moment.time⟩
    | .error _ => none
  | .turn id =>
    match moment.stage.hub.session? id, moment.stage.hub.heard? moment.time id with
    | some session, some (.message message) =>
      (session.speech? moment.stage.hub.settings.policy message).map (⟨·, moment.time⟩)
    | _, _ => none
  | _ => none

/-- Whether the endpoint is registered under the name in the moment. -/
def registers (name : Name) (endpoint : EndpointId) (moment : Moment) : Bool :=
  (registrations moment.trace).contains (name, endpoint)

/-- Whether the session or the listener that owns the endpoint ends in the moment. -/
def ends (endpoint : EndpointId) (moment : Moment) : Bool :=
  match moment.move with
  | .letGo listener => moment.stage.listeners.contains listener && listener.endpoint == endpoint
  | .turn id =>
    (moment.after.hub.session? id).any fun session =>
      session.endpoint == endpoint && session.isOver
  | _ => false

/-- Whether the endpoint, which holds the name, accepts nothing from this moment on. -/
def silences (name : Name) (endpoint : EndpointId) (moment : Moment) : Bool :=
  (registrations moment.trace).any (·.1 == name) ||
    (drops moment.trace).contains endpoint ||
    (refusals moment.trace).contains (endpoint, .full) ||
    moment.ends endpoint ||
    moment.move == .shutDown

/-- What is read from the endpoint's stream in the moment. -/
def read? (endpoint : EndpointId) (moment : Moment) : Option Delivery :=
  match moment.move with
  | .read id => if id = endpoint then (moment.stage.hub.read id).1.delivery? else none
  | _ => none

variable {moment : Moment} {log : List Event} {n : Name} {e : EndpointId}

theorem silences_iff : moment.silences n e = true ↔
    (∃ x, Registered moment.trace n x) ∨ e ∈ drops moment.trace ∨
      (e, .full) ∈ refusals moment.trace ∨ moment.ends e = true ∨ moment.move = .shutDown := by
  simp only [silences, Bool.or_eq_true, List.any_eq_true, beq_iff_eq, List.contains_iff_mem,
    Registered, or_assoc, Prod.exists, exists_and_right, exists_eq_right]

/-! ### A moment as a run -/

/-- The moment is the run of a program from a store from which at most something was read. -/
structure IsRun {α : Type} (moment : Moment) (p : Program α) (before : Store) : Prop where
  alike : moment.stage.hub.store.Alike before
  unread : ∀ e, (moment.read? e).toList ++ (before.endpoint e).unread =
    (moment.stage.hub.store.endpoint e).unread
  trace_eq : moment.trace = p.trace moment.time before
  store_eq : moment.after.hub.store = (p.run moment.time before).2

theorem isRun_of_eq {α : Type} {p : Program α} (hread : ∀ e, moment.read? e = none)
    (htrace : moment.trace = p.trace moment.time moment.stage.hub.store)
    (hrun : moment.after.hub.store = (p.run moment.time moment.stage.hub.store).2) :
    moment.IsRun p moment.stage.hub.store :=
  ⟨.refl _, fun e => by rw [hread e]; rfl, htrace, hrun⟩

/-- A move that is not possible is the run of nothing. -/
theorem isRun_of_idle (hread : ∀ e, moment.read? e = none) (htrace : moment.trace = [])
    (hstore : moment.after.hub.store = moment.stage.hub.store) :
    moment.IsRun (pure () : Program Unit) moment.stage.hub.store :=
  isRun_of_eq hread htrace hstore

theorem isRun_read (stage : Stage) (time : Timestamp) (id : EndpointId) :
    IsRun ⟨stage, time, .read id⟩ (pure () : Program Unit)
      (stage.hub.store.update id fun _ => (stage.hub.store.endpoint id).read.2) where
  alike := Store.alike_read _ _
  trace_eq := rfl
  store_eq := rfl
  unread e := Store.unread_read stage.hub.store id e

theorem isRun_submit (stage : Stage) (time : Timestamp) (message : Message) :
    IsRun ⟨stage, time, .submit message⟩ (Program.submit message) stage.hub.store :=
  isRun_of_eq (fun _ => rfl) rfl rfl

theorem isRun_openListener (stage : Stage) (time : Timestamp) (name : Name) :
    IsRun ⟨stage, time, .openListener name⟩
      (Program.openListener stage.hub.settings.capacity name) stage.hub.store :=
  isRun_of_eq (fun _ => rfl) rfl rfl

theorem isRun_letGo {stage : Stage} (time : Timestamp) {listener : Listener}
    (h : listener ∈ stage.listeners) :
    IsRun ⟨stage, time, .letGo listener⟩ (Program.letGo listener) stage.hub.store := by
  refine isRun_of_eq (fun _ => rfl) ?_ ?_
  · simp only [trace, Stage.trace, if_pos h]
  · simp only [after, Stage.step, if_pos h]
    rfl

theorem isRun_openSession (stage : Stage) (time : Timestamp) :
    IsRun ⟨stage, time, .openSession⟩
      (Session.start stage.hub.settings.capacity stage.hub.store.newInbound.1)
      stage.hub.store.newInbound.2 :=
  ⟨Store.alike_inbounds _ _, fun _ => rfl, rfl, rfl⟩

theorem isRun_turn {stage : Stage} {time : Timestamp} {id : SessionId} {session : Session}
    (hsession : stage.hub.session? id = some session) {hub : Hub}
    (hturn : stage.hub.turn time id = some hub) :
    IsRun ⟨stage, time, .turn id⟩ (session.turn stage.hub.settings.policy) stage.hub.store := by
  obtain ⟨session', turned, hsession', _, _, rfl⟩ := Stage.turn_eq_some hturn
  rw [hsession] at hsession'
  cases hsession'
  refine isRun_of_eq (fun _ => rfl) ?_ ?_
  · simp only [trace, Stage.trace, hturn, hsession]
  · simp only [after, Stage.step, hturn, Option.getD_some]

theorem isRun_dropOutbound {stage : Stage} (time : Timestamp) {id : SessionId} {session : Session}
    (hsession : stage.hub.session? id = some session) :
    IsRun ⟨stage, time, .dropOutbound id⟩ (Program.drop session.endpoint) stage.hub.store := by
  refine isRun_of_eq (fun _ => rfl) ?_ ?_
  · simp only [trace, Stage.trace, hsession]
  · simp only [after, Stage.step, hsession]
    rfl

/-- **Every moment is the run of a program.** -/
theorem exists_run (moment : Moment) :
    ∃ (α : Type) (p : Program α) (before : Store), moment.IsRun p before := by
  obtain ⟨stage, time, move⟩ := moment
  cases move with
  | submit message => exact ⟨_, _, _, isRun_submit stage time message⟩
  | openListener name => exact ⟨_, _, _, isRun_openListener stage time name⟩
  | letGo listener =>
    by_cases hl : listener ∈ stage.listeners
    · exact ⟨_, _, _, isRun_letGo time hl⟩
    · refine ⟨_, _, _, isRun_of_idle (fun _ => rfl) ?_ ?_⟩
      · simp only [trace, Stage.trace, if_neg hl]
      · simp only [after, Stage.step, if_neg hl]
  | openSession => exact ⟨_, _, _, isRun_openSession stage time⟩
  | arrive id arrival =>
    refine ⟨_, (pure () : Program Unit), _, Stage.alike_send stage.hub id arrival, fun e => ?_,
      rfl, rfl⟩
    exact congrArg Endpoint.unread (Stage.endpoint_send stage.hub id arrival e)
  | endInput id =>
    refine ⟨_, (pure () : Program Unit), _, Stage.alike_endInput stage.hub id, fun e => ?_,
      rfl, rfl⟩
    exact congrArg Endpoint.unread (Stage.endpoint_endInput stage.hub id e)
  | turn id =>
    cases hturn : stage.hub.turn time id with
    | none =>
      refine ⟨_, _, _, isRun_of_idle (fun _ => rfl) ?_ ?_⟩
      · simp only [trace, Stage.trace, hturn]
      · simp only [after, Stage.step, hturn, Option.getD_none]
    | some hub =>
      obtain ⟨session, _, hsession, _⟩ := Stage.turn_eq_some hturn
      exact ⟨_, _, _, isRun_turn hsession hturn⟩
  | read id => exact ⟨_, _, _, isRun_read stage time id⟩
  | dropOutbound id =>
    cases hsession : stage.hub.session? id with
    | none =>
      refine ⟨_, _, _, isRun_of_idle (fun _ => rfl) ?_ ?_⟩
      · simp only [trace, Stage.trace, hsession]
      · simp only [after, Stage.step, hsession]
    | some session => exact ⟨_, _, _, isRun_dropOutbound time hsession⟩
  | shutDown => exact ⟨_, Program.shutDown, _, isRun_of_eq (fun _ => rfl) rfl rfl⟩

end Moment

end BroadcastChat
