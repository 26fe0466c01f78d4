/-
# Watching the tasks

What becomes of the messages of one task is a matter of what it did, for which
call and after what, and of what was read from the endpoints. A watch writes
that down while the tasks act (`Watch`); what it watches is the world of
`Proofs/World.lean` (`Watch.world_step`).

There is one thing that a watch does not take for granted. A task that lists
the registry goes through it entry by entry while others change it. So it may
be answered with any list that a walk through the registry may give: whoever
is listed was bound at some time since the task's last action, and whoever was
bound all that time is listed (`Listing`). The registry as it stands is one
such list.

Key definitions: `Listing`, `Answers`, `Watch`, `Watch.Record`, `Watch.Move`, `Watch.step`,
`Watch.run`, `Watch.spoken`, `Watch.takings`, `Watch.accepted`, `Watch.yielded`.
Key theorems: `Listing.snapshotExcept`, `World.Sound.answered`, `Watch.world_step`,
`Watch.step_cases`.
-/
import BroadcastChat.Proofs.Moments
import BroadcastChat.Proofs.Passage

namespace BroadcastChat

/-! ### Listing a registry that others change -/

/-- What a task may be told that lists everybody but one name while the registry goes through these
states. -/
structure Listing (name : Name) (seen : List Registry) (bindings : List Binding) : Prop where
  other : ∀ b ∈ bindings, b.1 ≠ name
  met : ∀ b ∈ bindings, ∃ registry ∈ seen, b ∈ registry.bindings
  /-- Whoever stays bound all the time is listed. -/
  stayed : ∀ registry ∈ seen, ∀ b ∈ registry.bindings, b.1 ≠ name →
    (∀ later ∈ seen, b ∈ later.bindings) → b ∈ bindings
  once : (bindings.map Prod.fst).Nodup

instance (name : Name) (seen : List Registry) (bindings : List Binding) :
    Decidable (Listing name seen bindings) :=
  decidable_of_iff
    ((∀ b ∈ bindings, b.1 ≠ name) ∧ (∀ b ∈ bindings, ∃ registry ∈ seen, b ∈ registry.bindings) ∧
      (∀ registry ∈ seen, ∀ b ∈ registry.bindings,
        (b.1 ≠ name ∧ ∀ later ∈ seen, b ∈ later.bindings) → b ∈ bindings) ∧
      (bindings.map Prod.fst).Nodup)
    ⟨fun ⟨other, met, stayed, once⟩ =>
        ⟨other, met, fun registry hr b hb hne hall => stayed registry hr b hb ⟨hne, hall⟩, once⟩,
      fun ⟨other, met, stayed, once⟩ =>
        ⟨other, met, fun registry hr b hb h => stayed registry hr b hb h.1 h.2, once⟩⟩

theorem Listing.snapshotExcept {registry : Registry} {seen : List Registry} (h : registry ∈ seen)
    (name : Name) : Listing name seen (registry.snapshotExcept name) where
  other b hb := by
    obtain ⟨n, e⟩ := b
    exact (Registry.mem_snapshotExcept.1 hb).2
  met b hb := by
    obtain ⟨n, e⟩ := b
    exact ⟨registry, h, Registry.mem_bindings_iff.2 (Registry.mem_snapshotExcept.1 hb).1⟩
  stayed _ _ b _ hne hall := by
    obtain ⟨n, e⟩ := b
    exact Registry.mem_snapshotExcept.2 ⟨Registry.mem_bindings_iff.1 (hall registry h), hne⟩
  once := by
    have hnames : (registry.bindings.map Prod.fst).Nodup :=
      registry.pairwise_names.imp fun hlt => Name.ne_of_lt hlt
    exact hnames.sublist (List.filter_sublist.map Prod.fst)

/-- What a task that has seen these registries since its last action may be answered, and what
there is after that. -/
inductive Answers (store : Store) (seen : List Registry) :
    (action : Action) → action.Answer → Store → Prop where
  | perform (time : Timestamp) (action : Action) :
      Answers store seen action (action.perform time store).1 (action.perform time store).2
  | list {name : Name} {bindings : List Binding} (h : Listing name seen bindings) :
      Answers store seen (.snapshotExcept name) bindings store

namespace Answers

variable {store after : Store} {seen : List Registry} {action : Action} {answer : action.Answer}

theorem listing {name : Name} {bindings : List Binding}
    (h : Answers store seen (.snapshotExcept name) bindings after)
    (hnow : store.registry ∈ seen) : Listing name seen bindings ∧ after = store := by
  cases h with
  | perform time => exact ⟨.snapshotExcept hnow name, rfl⟩
  | list h => exact ⟨h, rfl⟩

theorem binds_of (h : Answers store seen action answer after) {n : Name} {e : EndpointId}
    (hb : after.Binds n e) : store.Binds n e ∨ action = .register n e := by
  cases h with
  | perform time action => exact Action.binds_of_perform hb
  | list h => exact .inl hb

theorem not_binds {n : Name} {e : EndpointId} {removed : Bool}
    (h : Answers store seen (.removeIfCurrent n e) removed after) : ¬after.Binds n e := by
  cases h with
  | perform time => exact fun hb => (Books.binds_removeIfCurrent.1 hb).2 rfl

theorem unread (h : Answers store seen action answer after) (e : EndpointId) :
    (after.endpoint e).unread =
      (store.endpoint e).unread ++ accepted [⟨action, answer⟩] e := by
  cases h with
  | perform time action => exact Action.unread_perform e
  | list h => exact (List.append_nil _).symm

end Answers

/-! ### Answering a task -/

/-- A task gets an answer to its next action and goes on with it. -/
def World.answered (world : World) (task : Nat) (call : Call) (past : List Event) {action : Action}
    (next : action.Answer → Program Resting) (answer : action.Answer) (store : Store) : World :=
  { world with
    store
    tasks := world.tasks.set task (.goOn call (past ++ [⟨action, answer⟩]) (next answer))
    log := world.log ++ [⟨action, answer⟩] }

namespace World

variable {world : World} {task : Nat} {call : Call} {past : List Event} {action : Action}
  {next : action.Answer → Program Resting} {answer : action.Answer} {store : Store}

theorem Sound.registered_unique (h : world.Sound) {n n' : Name} {e : EndpointId}
    (hr : Registered world.log n e) (hr' : Registered world.log n' e) : n = n' := by
  obtain ⟨notes, _, hbooks⟩ := h
  exact hbooks.registered_unique hr hr'

/-- **The books stay right whatever a listing gives**, as long as nobody is listed who was never
registered. -/
theorem Sound.answered {seen : List Registry} (h : world.Sound)
    (hget : world.tasks[task]? = some (.busy call past (.step action next)))
    (ha : Answers world.store seen action answer store)
    (hseen : ∀ registry ∈ seen, ∀ b ∈ registry.bindings, Registered world.log b.1 b.2) :
    (world.answered task call past next answer store).Sound := by
  cases ha with
  | perform time =>
    have hact := h.act task time
    rw [step_act hget] at hact
    exact hact
  | @list name bindings hlisting =>
    obtain ⟨notes, ha, hb⟩ := h
    obtain ⟨own, rest, hkeeps, rfl, hset⟩ := ha.exists_ledger hget
    obtain ⟨own', hentry, hafter⟩ := hkeeps bindings
    refine ⟨own' + rest, hset _ _ (World.Task.ledger_goOn hafter), ?_⟩
    have hknown : ∀ b ∈ bindings, Registered world.log b.1 b.2 := by
      intro b hm
      obtain ⟨registry, hregistry, hbound⟩ := hlisting.met b hm
      exact hseen registry hregistry b hbound
    have hlog : Books world.store (world.log ++ [⟨.snapshotExcept name, bindings⟩])
        (own + rest) := by
      refine hb.relog ?_ ?_
      · rw [registrations_append, registrations_singleton_of_ne (by simp), List.append_nil]
      · rw [swept_append, swept_singleton]
        simp
    cases hentry with
    | snapshot =>
      rw [add_assoc]
      exact known_of_bindings hlog fun b hm => registered_snoc (hknown b hm)

/-- Who was registered and is not bound is not bound by whatever is answered. -/
theorem Sound.unbound_answered {seen : List Registry}
    (h : (world.answered task call past next answer store).Sound)
    (ha : Answers world.store seen action answer store) {n : Name} {e : EndpointId}
    (hr : Registered world.log n e) (hb : ¬world.store.Binds n e) : ¬store.Binds n e := by
  intro hafter
  rcases ha.binds_of hafter with hbefore | rfl
  · exact hb hbefore
  · obtain ⟨notes, _, hbooks⟩ := h
    exact hbooks.registered_once hr (List.mem_singleton.2 rfl)

/-- Whoever is bound was registered. -/
theorem Sound.registered_of_mem (h : world.Sound) :
    ∀ b ∈ world.store.registry.bindings, Registered world.log b.1 b.2 := by
  obtain ⟨notes, _, hbooks⟩ := h
  exact fun b hm => hbooks.registered_of_mem_bindings hm

end World

/-! ### What is written down -/

/-- What a task did, for which call and after what it had done for it before. -/
structure Watch.Record where
  task : Nat
  call : Call
  past : List Event
  event : Event

/-- A world with what was written down about it: which registries each task has seen since its last
action, what the tasks did, and what was read from which endpoint. -/
structure Watch where
  world : World
  seen : Nat → List Registry
  records : List Watch.Record
  yields : List (EndpointId × Delivery)

namespace Watch

/-- A new hub on which no task works. -/
def new (settings : HubSettings) : Watch := ⟨.new settings, fun _ => [.empty], [], []⟩

/-- What happens next. -/
inductive Move where
  | choose (choice : Choice)
  /-- A task that lists the registry is told this. -/
  | list (task : Nat) (bindings : List Binding)
  deriving DecidableEq

/-- What is read from an endpoint. -/
def yield? (watch : Watch) : Choice → Option (EndpointId × Delivery)
  | .read e => (watch.world.store.endpoint e).read.1.delivery?.map (e, ·)
  | _ => none

/-- A task gets an answer to its next action; everybody else sees the registry after that. -/
def answered (watch : Watch) (task : Nat) (call : Call) (past : List Event) {action : Action}
    (next : action.Answer → Program Resting) (answer : action.Answer) (store : Store) : Watch where
  world := watch.world.answered task call past next answer store
  seen other := if other = task then [store.registry] else watch.seen other ++ [store.registry]
  records := watch.records ++ [⟨task, call, past, ⟨action, answer⟩⟩]
  yields := watch.yields

/-- Something happens outside, or a call begins. -/
def outside (watch : Watch) (choice : Choice) : Watch :=
  { watch with
    world := watch.world.step choice
    yields := watch.yields ++ (watch.yield? choice).toList }

/-- What happens. A move that is not possible changes nothing. -/
def step (watch : Watch) : Move → Watch
  | .choose (.act task time) =>
    match watch.world.tasks[task]? with
    | some (.busy call past (.step action next)) =>
      let (answer, store) := action.perform time watch.world.store
      watch.answered task call past next answer store
    | _ => watch
  | .choose choice => watch.outside choice
  | .list task bindings =>
    match watch.world.tasks[task]? with
    | some (.busy call past (.step (.snapshotExcept name) next)) =>
      if Listing name (watch.seen task) bindings then
        watch.answered task call past next bindings watch.world.store
      else watch
    | _ => watch

/-- What there is after all moves. -/
def run (watch : Watch) (moves : List Move) : Watch := moves.foldl step watch

/-! ### Reading it -/

section

variable (watch : Watch)

/-- What a task did. -/
def doings (task : Nat) : List Record := watch.records.filter (·.task = task)

/-- What the task handed out and who accepted something from it. -/
def words (task : Nat) : List Word :=
  (watch.doings task).filterMap fun record =>
    record.event.word? (record.call.delivery? watch.world.settings.policy (.of record.past))

/-- The deliveries that a task handed out, in order. -/
def spoken (task : Nat) : List Delivery := (watch.words task).filterMap Word.said?

/-- The deliveries that an endpoint accepted, in order, each with the task that handed it out. -/
def takings (e : EndpointId) : List (Nat × Delivery) :=
  watch.records.filterMap fun record => (record.event.accepted? e).map (record.task, ·)

/-- The deliveries that an endpoint accepted from a task, in order. -/
def accepted (task : Nat) (e : EndpointId) : List Delivery :=
  (watch.takings e).filterMap fun taking => if taking.1 = task then some taking.2 else none

/-- What the endpoint's stream has yielded, in order. -/
def yielded (e : EndpointId) : List Delivery :=
  watch.yields.filterMap fun (x, delivery) => if x = e then some delivery else none

/-- The names under which a task registered an endpoint or listed everybody else. -/
def names (task : Nat) : List Name :=
  (watch.doings task).filterMap fun record => record.event.action.name?

end

variable {watch : Watch}

/-! ### What a move does -/

/-- What is watched is the world as it goes on of itself. -/
theorem world_step (watch : Watch) (choice : Choice) :
    (watch.step (.choose choice)).world = watch.world.step choice := by
  cases choice with
  | act task time =>
    cases hnext : watch.world.next? task with
    | none =>
      rw [World.step_act_of_none hnext]
      unfold World.next? at hnext
      simp only [step]
      split
      · rename_i call past action next hget
        rw [hget] at hnext
        cases hnext
      · rfl
    | some found =>
      obtain ⟨call, past, action⟩ := found
      obtain ⟨next, hget⟩ := World.exists_next hnext
      rw [World.step_act hget]
      simp only [step, hget]
      rfl
  | _ => rfl

theorem world_run (watch : Watch) (choices : List Choice) :
    (watch.run (choices.map .choose)).world = watch.world.run choices := by
  induction choices generalizing watch with
  | nil => rfl
  | cons choice rest ih =>
    have hfirst := watch.world_step choice
    have hrest := ih (watch.step (.choose choice))
    rw [hfirst] at hrest
    exact hrest

/-- **What a move can do**: nothing, answer a task, or something that no task does. -/
theorem step_cases (watch : Watch) (move : Move) :
    watch.step move = watch ∨
      (∃ task call past action next answer store,
        watch.world.tasks[task]? = some (.busy call past (.step action next)) ∧
          Answers watch.world.store (watch.seen task) action answer store ∧
          watch.step move = watch.answered task call past next answer store) ∨
      ∃ choice, (∀ task time, choice ≠ .act task time) ∧
        watch.step move = watch.outside choice := by
  cases move with
  | choose choice =>
    by_cases hact : ∃ task time, choice = .act task time
    · obtain ⟨task, time, rfl⟩ := hact
      simp only [step]
      split
      · rename_i call past action next hget
        exact .inr (.inl ⟨task, call, past, action, next, _, _, hget, .perform time action, rfl⟩)
      · exact .inl rfl
    · refine .inr (.inr ⟨choice, fun task time heq => hact ⟨task, time, heq⟩, ?_⟩)
      cases choice with
      | act task time => exact absurd ⟨task, time, rfl⟩ hact
      | _ => rfl
  | list task bindings =>
    simp only [step]
    split
    · rename_i call past name next hget
      by_cases hlisting : Listing name (watch.seen task) bindings
      · rw [if_pos hlisting]
        exact .inr (.inl ⟨task, call, past, _, next, _, _, hget, .list hlisting, rfl⟩)
      · rw [if_neg hlisting]
        exact .inl rfl
    · exact .inl rfl

end Watch

end BroadcastChat
