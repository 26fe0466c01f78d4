/-
# Tasks that act by turns

Here any number of tasks work on one hub at the same time. A task is at rest
or in the middle of a call, and in each step of a run one task, whichever,
performs its next action, or a new call begins, or something happens outside:
a client speaks, goes away, or reads from or drops its stream. Nothing is
assumed about the order. The calls are the hub's own programs, so what is
shown here about every order of their actions is shown about the hub.

A property that each call starts with and each action keeps is true of every
task at every time (`World.Task.Invariant.run`).

Key definitions: `Call`, `Call.program`, `Resting`, `World.Task`, `World`, `Choice`,
`World.step`, `World.run`, `World.next?`, `World.Begins`, `World.Task.Invariant`.
Key theorems: `World.step_act`, `World.step_of_not_act`, `World.begins_of_step`,
`World.Task.Invariant.run`.
-/
import BroadcastChat.Proofs.Trace
import BroadcastChat.Hub

namespace BroadcastChat

/-! ### Calls -/

/-- What a task is asked to do. -/
inductive Call where
  /-- Makes a session for a client that has connected. -/
  | connect (inbound : InboundId)
  /-- Handles the next event of a session, if there is any. -/
  | turn (session : Session)
  | openListener (name : Name)
  | letGo (listener : Listener)
  | submit (message : Message)
  | broadcast (message : Message)
  | shutDown
  deriving DecidableEq

namespace Call

/-- Whether anybody may ask for the call; sessions and listeners are their owners' business. -/
def isPublic : Call → Bool
  | .openListener _ | .submit _ | .broadcast _ | .shutDown => true
  | .connect _ | .turn _ | .letGo _ => false

end Call

/-- What a task has when its call has returned. -/
inductive Resting where
  | session (session : Session)
  | listener (listener : Listener)
  /-- Nothing but the knowledge that the call has returned. -/
  | returned (call : Call)

/-- What a call does. -/
def Call.program (settings : HubSettings) : Call → Program Resting
  | .connect inbound => do
    let session ← Session.start settings.capacity inbound
    return .session session
  | .turn session => do
    let turned ← session.turn settings.policy
    return .session (turned.getD session)
  | .openListener name => do
    let listener ← Program.openListener settings.capacity name
    return .listener listener
  | .letGo listener => do
    Program.letGo listener
    return .returned (.letGo listener)
  | .submit message => do
    let _ ← Program.submit message
    return .returned (.submit message)
  | .broadcast message => do
    let _ ← Program.broadcast message
    return .returned (.broadcast message)
  | .shutDown => do
    Program.shutDown
    return .returned .shutDown

/-! ### Tasks -/

/-- A task is at rest, or in the middle of a call: what it has done for it and what is left. -/
inductive World.Task where
  | idle (resting : Resting)
  | busy (call : Call) (past : List Event) (rest : Program Resting)

namespace World.Task

/-- A task that has done so much for a call goes on, or is done. -/
def goOn (call : Call) (past : List Event) : Program Resting → Task
  | .done resting => .idle resting
  | .step action next => .busy call past (.step action next)

/-- Whether a task is at rest. -/
def isIdle : Task → Bool
  | .idle _ => true
  | .busy _ _ _ => false

theorem exists_resting {task : Task} (h : task.isIdle = true) :
    ∃ resting, task = .idle resting := by
  cases task with
  | idle resting => exact ⟨resting, rfl⟩
  | busy call past rest => cases h

/-- Whether a task has nothing more to do: it is at rest, and a session of its own is over. -/
def isDone : Task → Bool
  | .idle (.session session) => session.isOver
  | .idle _ => true
  | .busy _ _ _ => false

/-- Whether this call of the task has returned. -/
def hasReturned (call : Call) : Task → Bool
  | .idle (.returned other) => other = call
  | _ => false

theorem isIdle_of_isDone {task : Task} (h : task.isDone = true) : task.isIdle = true := by
  cases task with
  | idle resting => rfl
  | busy call past rest => cases h

/-- A task that begins a call. -/
def begin (settings : HubSettings) (call : Call) : Task := goOn call [] (call.program settings)

end World.Task

/-! ### Worlds -/

/-- A hub's store, the tasks that work on it, and everything that was done to it. -/
structure World where
  settings : HubSettings
  store : Store
  tasks : List World.Task
  log : List Event

/-- What can happen next. -/
inductive Choice where
  /-- A client connects. -/
  | connect
  /-- Somebody makes a call. -/
  | ask (call : Call)
  /-- A session looks for its next event. -/
  | wake (task : Nat)
  /-- The owner of a listener lets go of it. -/
  | letGo (task : Nat)
  /-- A task performs its next action. -/
  | act (task : Nat) (time : Timestamp)
  | arrive (inbound : InboundId) (arrival : Arrival)
  | endInput (inbound : InboundId)
  | read (endpoint : EndpointId)
  | dropStream (endpoint : EndpointId)
  deriving DecidableEq

namespace World

/-- A new hub on which no task works. -/
def new (settings : HubSettings) : World := ⟨settings, .empty, [], []⟩

/-- One more task begins a call. -/
def spawn (world : World) (call : Call) : World :=
  { world with tasks := world.tasks ++ [.begin world.settings call] }

/-- A task that is at rest begins a call. -/
def resume (world : World) (task : Nat) (call : Call) : World :=
  { world with tasks := world.tasks.set task (.begin world.settings call) }

/-- What happens. A choice that is not possible changes nothing. -/
def step (world : World) : Choice → World
  | .connect =>
    { world with store := world.store.newInbound.2 }.spawn (.connect world.store.newInbound.1)
  | .ask call => if call.isPublic then world.spawn call else world
  | .wake task =>
    match world.tasks[task]? with
    | some (.idle (.session session)) =>
      if session.isOver then world else world.resume task (.turn session)
    | _ => world
  | .letGo task =>
    match world.tasks[task]? with
    | some (.idle (.listener listener)) => world.resume task (.letGo listener)
    | _ => world
  | .act task time =>
    match world.tasks[task]? with
    | some (.busy call past (.step action next)) =>
      let (answer, store) := action.perform time world.store
      { world with
        store
        tasks := world.tasks.set task (.goOn call (past ++ [⟨action, answer⟩]) (next answer))
        log := world.log ++ [⟨action, answer⟩] }
    | _ => world
  | .arrive inbound arrival =>
    if (world.store.inbound inbound).isOpen then
      { world with store := world.store.updateInbound inbound (·.push arrival) }
    else world
  | .endInput inbound =>
    { world with store := world.store.updateInbound inbound Inbound.finish }
  | .read endpoint =>
    { world with
      store := world.store.update endpoint fun _ => (world.store.endpoint endpoint).read.2 }
  | .dropStream endpoint =>
    { world with
      store := world.store.update endpoint Endpoint.drop
      log := world.log ++ [⟨.drop endpoint, ()⟩] }

/-- What there is after everything that was chosen has happened. -/
def run (world : World) (choices : List Choice) : World := choices.foldl step world

/-- What a task is about to do: for which call, after which past, and which action. -/
def next? (world : World) (task : Nat) : Option (Call × List Event × Action) :=
  match world.tasks[task]? with
  | some (.busy call past (.step action _)) => some (call, past, action)
  | _ => none

/-- What a task does in this step, and which task. -/
def event? (world : World) : Choice → Option (Nat × Event)
  | .act task time => (world.next? task).map fun (_, _, action) =>
    (task, ⟨action, (action.perform time world.store).1⟩)
  | _ => none

/-- What the tasks do in a run, in order. -/
def events : List Choice → World → List (Nat × Event)
  | [], _ => []
  | choice :: rest, world => (world.event? choice).toList ++ events rest (world.step choice)

/-- Whether no task is in the middle of a call. -/
def AtRest (world : World) : Prop := ∀ task ∈ world.tasks, task.isIdle = true

instance (world : World) : Decidable world.AtRest :=
  inferInstanceAs (Decidable (∀ task ∈ world.tasks, task.isIdle = true))

variable {world : World}

theorem step_act {task : Nat} {call : Call} {past : List Event} {action : Action}
    {next : action.Answer → Program Resting}
    (h : world.tasks[task]? = some (.busy call past (.step action next))) (time : Timestamp) :
    world.step (.act task time) = { world with
      store := (action.perform time world.store).2
      tasks := world.tasks.set task
        (.goOn call (past ++ [⟨action, (action.perform time world.store).1⟩])
          (next (action.perform time world.store).1))
      log := world.log ++ [⟨action, (action.perform time world.store).1⟩] } := by
  simp only [step, h]

theorem step_act_of_none {task : Nat} (h : world.next? task = none) (time : Timestamp) :
    world.step (.act task time) = world := by
  unfold next? at h
  simp only [step]
  split
  · rename_i call past action next hget
    rw [hget] at h
    cases h
  · rfl

theorem exists_next {task : Nat} {call : Call} {past : List Event} {action : Action}
    (h : world.next? task = some (call, past, action)) :
    ∃ next, world.tasks[task]? = some (.busy call past (.step action next)) := by
  unfold next? at h
  split at h
  · rename_i call' past' action' next hget
    cases h
    exact ⟨next, hget⟩
  · cases h

/-- Only tasks that act change the registry, the stop signal or which endpoints there are. -/
theorem step_of_not_act {choice : Choice} (h : ∀ task time, choice ≠ .act task time) :
    (world.step choice).store.registry = world.store.registry ∧
      (world.step choice).store.stopped = world.store.stopped := by
  cases choice with
  | act task time => exact absurd rfl (h task time)
  | ask call =>
    simp only [step]
    split <;> exact ⟨rfl, rfl⟩
  | wake task =>
    simp only [step]
    split
    · split <;> exact ⟨rfl, rfl⟩
    · exact ⟨rfl, rfl⟩
  | letGo task =>
    simp only [step]
    split <;> exact ⟨rfl, rfl⟩
  | arrive inbound arrival =>
    simp only [step]
    split <;> exact ⟨rfl, rfl⟩
  | connect | endInput | read | dropStream => exact ⟨rfl, rfl⟩

theorem getElem?_spawn {call : Call} {index : Nat} {task : World.Task}
    (h : (world.spawn call).tasks[index]? = some task) :
    world.tasks[index]? = some task ∨
      task = .begin world.settings call ∧ world.tasks.length ≤ index := by
  rw [spawn, List.getElem?_append] at h
  split at h
  · exact .inl h
  · rename_i hlength
    exact .inr ⟨List.mem_singleton.1 (List.mem_of_getElem? h), Nat.le_of_not_lt hlength⟩

theorem getElem?_set {other index : Nat} {new task : World.Task}
    (h : (world.tasks.set other new)[index]? = some task) :
    world.tasks[index]? = some task ∨ other = index ∧ task = new := by
  rw [List.getElem?_set] at h
  split at h
  · rename_i heq
    split at h
    · cases h
      exact .inr ⟨heq, rfl⟩
    · cases h
  · exact .inl h

/-- Which calls a task may begin that is new or at rest. -/
inductive Begins (world : World) (index : Nat) : Call → Prop where
  | connect (inbound : InboundId) (h : world.tasks.length ≤ index) :
      Begins world index (.connect inbound)
  | ask {call : Call} (hp : call.isPublic = true) (h : world.tasks.length ≤ index) :
      Begins world index call
  | wake {session : Session} (h : world.tasks[index]? = some (.idle (.session session)))
      (hover : session.isOver = false) : Begins world index (.turn session)
  | letGo {listener : Listener} (h : world.tasks[index]? = some (.idle (.listener listener))) :
      Begins world index (.letGo listener)

/-- As long as no task acts, a task only changes by beginning a call. -/
theorem begins_of_step {choice : Choice} {index : Nat} {task : World.Task}
    (hne : ∀ other time, choice ≠ .act other time)
    (h : (world.step choice).tasks[index]? = some task) :
    world.tasks[index]? = some task ∨
      ∃ call, task = .begin world.settings call ∧ world.Begins index call := by
  cases choice with
  | connect =>
    rcases getElem?_spawn h with hold | ⟨heq, hlength⟩
    · exact .inl hold
    · exact .inr ⟨_, heq, .connect _ hlength⟩
  | ask call =>
    by_cases hp : call.isPublic = true
    · simp only [step, if_pos hp] at h
      rcases getElem?_spawn h with hold | ⟨heq, hlength⟩
      · exact .inl hold
      · exact .inr ⟨_, heq, .ask hp hlength⟩
    · simp only [step, if_neg hp] at h
      exact .inl h
  | wake other =>
    simp only [step] at h
    split at h
    · rename_i session hget
      by_cases hover : session.isOver = true
      · rw [if_pos hover] at h
        exact .inl h
      · rw [if_neg hover] at h
        rcases getElem?_set h with hold | ⟨rfl, heq⟩
        · exact .inl hold
        · exact .inr ⟨_, heq, .wake hget (Bool.eq_false_iff.2 hover)⟩
    · exact .inl h
  | letGo other =>
    simp only [step] at h
    split at h
    · rename_i listener hget
      rcases getElem?_set h with hold | ⟨rfl, heq⟩
      · exact .inl hold
      · exact .inr ⟨_, heq, .letGo hget⟩
    · exact .inl h
  | act other time => exact absurd rfl (hne other time)
  | arrive inbound arrival =>
    simp only [step] at h
    split at h <;> exact .inl h
  | endInput | read | dropStream => exact .inl h

/-- A task only changes by what it does itself, or because it begins a call. -/
theorem getElem?_step {choice : Choice} {index : Nat} {task : World.Task}
    (hne : ∀ time, choice ≠ .act index time)
    (h : (world.step choice).tasks[index]? = some task) :
    world.tasks[index]? = some task ∨ ∃ call, task = .begin world.settings call := by
  by_cases hact : ∃ other time, choice = .act other time
  · obtain ⟨other, time, rfl⟩ := hact
    cases hnext : world.next? other with
    | none =>
      rw [step_act_of_none hnext] at h
      exact .inl h
    | some found =>
      obtain ⟨call, past, action⟩ := found
      obtain ⟨next, hget⟩ := exists_next hnext
      rw [step_act hget] at h
      rcases getElem?_set h with hold | ⟨heq, _⟩
      · exact .inl hold
      · exact absurd (heq ▸ rfl) (hne time)
  · rcases begins_of_step (fun other time heq => hact ⟨other, time, heq⟩) h with
      hold | ⟨call, heq, _⟩
    · exact .inl hold
    · exact .inr ⟨call, heq⟩

theorem settings_step (choice : Choice) : (world.step choice).settings = world.settings := by
  unfold step
  split <;> try rfl
  · split <;> rfl
  · split
    · split <;> rfl
    · rfl
  · split <;> rfl
  · split <;> rfl
  · split <;> rfl

theorem exists_log_step (world : World) {choice : Choice}
    (hne : ∀ task time, choice ≠ .act task time) :
    ∃ more, (world.step choice).log = world.log ++ more := by
  cases choice with
  | act task time => exact absurd rfl (hne task time)
  | dropStream e => exact ⟨_, rfl⟩
  | _ =>
    refine ⟨[], ?_⟩
    rw [List.append_nil]
    simp only [step]
    repeat' split
    all_goals rfl

theorem length_step (world : World) {choice : Choice}
    (hne : ∀ task time, choice ≠ .act task time) :
    world.tasks.length ≤ (world.step choice).tasks.length := by
  have hspawn : ∀ (world : World) call, world.tasks.length ≤ (world.spawn call).tasks.length := by
    intro world call
    rw [spawn, List.length_append]
    exact Nat.le_add_right _ _
  have hresume : ∀ task call, world.tasks.length ≤ (world.resume task call).tasks.length :=
    fun task call => Nat.le_of_eq List.length_set.symm
  cases choice with
  | act task time => exact absurd rfl (hne task time)
  | connect => exact hspawn _ _
  | ask call =>
    simp only [step]
    split
    · exact hspawn _ _
    · exact Nat.le_refl _
  | wake task =>
    simp only [step]
    split
    · split
      · exact Nat.le_refl _
      · exact hresume _ _
    · exact Nat.le_refl _
  | letGo task =>
    simp only [step]
    split
    · exact hresume _ _
    · exact Nat.le_refl _
  | arrive inbound arrival =>
    simp only [step]
    split <;> exact Nat.le_refl _
  | endInput | read | dropStream => exact Nat.le_refl _

theorem run_cons (choice : Choice) (rest : List Choice) :
    world.run (choice :: rest) = (world.step choice).run rest := rfl

end World

/-! ### What is true of every task -/

/-- What every call starts with and every action keeps, where `asked` says which calls are made. -/
structure World.Task.Invariant (settings : HubSettings) (asked : Call → Prop)
    (P : World.Task → Prop) : Prop where
  connect : ∀ inbound, P (.begin settings (.connect inbound))
  ask : ∀ call, call.isPublic = true → asked call → P (.begin settings call)
  wake : ∀ session, P (.idle (.session session)) → session.isOver = false →
    P (.begin settings (.turn session))
  letGo : ∀ listener, P (.idle (.listener listener)) → P (.begin settings (.letGo listener))
  act : ∀ call past action next, P (.busy call past (.step action next)) →
    ∀ answer, P (.goOn call (past ++ [⟨action, answer⟩]) (next answer))

namespace World.Task.Invariant

variable {settings : HubSettings} {asked : Call → Prop} {P : World.Task → Prop} {world : World}

theorem step (h : World.Task.Invariant settings asked P) (hs : world.settings = settings)
    (hall : ∀ task ∈ world.tasks, P task) {choice : Choice}
    (hasked : ∀ call, choice = .ask call → asked call) :
    ∀ task ∈ (world.step choice).tasks, P task := by
  have hspawn : ∀ {world : World} {call : Call}, world.settings = settings →
      (∀ task ∈ world.tasks, P task) → P (.begin settings call) →
      ∀ task ∈ (world.spawn call).tasks, P task := by
    intro world call hs hall hnew task hm
    rcases List.mem_append.1 hm with hm | hm
    · exact hall task hm
    · rw [List.mem_singleton.1 hm, hs]
      exact hnew
  have hset : ∀ {index : Nat} {new : World.Task}, P new →
      ∀ task ∈ world.tasks.set index new, P task := by
    intro index new hnew task hm
    rcases List.mem_or_eq_of_mem_set hm with hm | rfl
    · exact hall task hm
    · exact hnew
  have hget : ∀ {index : Nat} {task : World.Task}, world.tasks[index]? = some task → P task :=
    fun heq => hall _ (List.mem_of_getElem? heq)
  cases choice with
  | connect => exact hspawn hs hall (h.connect _)
  | ask call =>
    by_cases hp : call.isPublic = true
    · simp only [World.step, if_pos hp]
      exact hspawn hs hall (h.ask call hp (hasked call rfl))
    · simp only [World.step, if_neg hp]
      exact hall
  | wake index =>
    simp only [World.step]
    split
    · rename_i session heq
      by_cases hover : session.isOver = true
      · rw [if_pos hover]
        exact hall
      · rw [if_neg hover, World.resume, hs]
        exact hset (h.wake session (hget heq) (Bool.eq_false_iff.2 hover))
    · exact hall
  | letGo index =>
    simp only [World.step]
    split
    · rename_i listener heq
      rw [World.resume, hs]
      exact hset (h.letGo listener (hget heq))
    · exact hall
  | act index time =>
    cases hnext : world.next? index with
    | none =>
      rw [World.step_act_of_none hnext]
      exact hall
    | some found =>
      obtain ⟨call, past, action⟩ := found
      obtain ⟨next, heq⟩ := World.exists_next hnext
      rw [World.step_act heq]
      exact hset (h.act call past action next (hget heq) _)
  | arrive inbound arrival =>
    simp only [World.step]
    split <;> exact hall
  | endInput | read | dropStream => exact hall

/-- **A property that each call starts with and each action keeps is true of every task.** -/
theorem run (h : World.Task.Invariant settings asked P) (choices : List Choice)
    (hs : world.settings = settings) (hall : ∀ task ∈ world.tasks, P task)
    (hasked : ∀ call, .ask call ∈ choices → asked call) :
    ∀ task ∈ (world.run choices).tasks, P task := by
  induction choices generalizing world with
  | nil => exact hall
  | cons choice rest ih =>
    rw [World.run_cons]
    refine ih ((world.settings_step choice).trans hs) (h.step hs hall ?_) ?_
    · rintro call rfl
      exact hasked call List.mem_cons_self
    · exact fun call hm => hasked call (List.mem_cons_of_mem _ hm)

end World.Task.Invariant

end BroadcastChat
