/-
# Shutdown among other tasks

A shutdown gives the stop signal, empties the registry and closes what it
found, while listeners are opened and let go of, sessions take names over and
messages are handed out. A task that passed its check before the signal may
register after the sweep; it then looks at the signal once more, or its
session does before its next event, and removes what it registered.

After the signal a session reads at most once more from its client: in the
turn that it is in (`World.handled_le`). And when everybody has come to rest,
no name is held and no endpoint is open, since the only endpoints that may be
bound or open are those in somebody's notes, and the notes of sessions that
are over and of listeners say that theirs are not (`World.Finished.not_binds`,
`World.Finished.closed_of_has`).

Key definitions: `Action.PossibleStopped`, `Program.ReadsAtMost`,
`World.handled`.
Key theorems: `Session.reads_turn`, `World.handled_le`,
`World.Finished.not_binds`, `shutdown_leaves_nothing`.
-/
import BroadcastChat.Proofs.Accounts
import BroadcastChat.Proofs.Kinds

namespace BroadcastChat

/-! ### How often a program reads from a client -/

namespace Action

/-- How often the action reads from a client's stream. -/
def reads : Action → Nat
  | .receive _ => 1
  | _ => 0

/-- Whether the answer is possible on a hub that has stopped. -/
def PossibleStopped : (action : Action) → action.Answer → Prop
  | .isStopped, stopped => stopped = true
  | _, _ => True

theorem possibleStopped_perform {time : Timestamp} {store : Store} {action : Action}
    (hs : store.stopped = true) : action.PossibleStopped (action.perform time store).1 := by
  cases action with
  | isStopped => exact hs
  | _ => trivial

theorem reads_eq_zero {action : Action} (h : action.kind ≠ .receive) : action.reads = 0 := by
  cases action with
  | receive inbound => exact absurd rfl h
  | _ => rfl

end Action

namespace Program

variable {α β : Type} {possible : (action : Action) → action.Answer → Prop} {k : Nat}

/-- If all answers are possible ones, the program reads at most so often from clients. -/
def ReadsAtMost (possible : (action : Action) → action.Answer → Prop) : Nat → Program α → Prop
  | _, .done _ => True
  | k, .step action next => ∃ j, action.reads + j ≤ k ∧
      ∀ answer, possible action answer → (next answer).ReadsAtMost possible j

theorem readsAtMost_pure {value : α} : (pure value : Program α).ReadsAtMost possible k := trivial

theorem ReadsAtMost.mono {possible' : (action : Action) → action.Answer → Prop} {k' : Nat}
    {p : Program α} (h : p.ReadsAtMost possible k) (hk : k ≤ k')
    (hp : ∀ action answer, possible' action answer → possible action answer) :
    p.ReadsAtMost possible' k' := by
  induction p generalizing k k' with
  | done value => trivial
  | step action next ih =>
    obtain ⟨j, hj, hnext⟩ := h
    refine ⟨j, Nat.le_trans hj hk, fun answer ha => ?_⟩
    exact ih answer (hnext answer (hp action answer ha)) (Nat.le_refl j)

theorem ReadsAtMost.bind {q : α → Program β} {j : Nat} {p : Program α}
    (h : p.ReadsAtMost possible k) (hq : ∀ value, (q value).ReadsAtMost possible j) :
    (p >>= q).ReadsAtMost possible (k + j) := by
  induction p generalizing k with
  | done value => exact (hq value).mono (Nat.le_add_left j k) fun _ _ ha => ha
  | step action next ih =>
    obtain ⟨i, hi, hnext⟩ := h
    refine ⟨i + j, ?_, fun answer ha => ih answer (hnext answer ha)⟩
    rw [← Nat.add_assoc]
    exact Nat.add_le_add_right hi j

theorem Within.readsAtMost {kinds : List Action.Kind} {p : Program α} (h : p.Within kinds)
    (hk : .receive ∉ kinds) : p.ReadsAtMost possible 0 := by
  induction p with
  | done value => trivial
  | step action next ih =>
    have hreads : action.reads = 0 := Action.reads_eq_zero fun heq => hk (heq ▸ h.1)
    exact ⟨0, by rw [hreads], fun answer _ => ih answer (h.2 answer)⟩

end Program

namespace Session

open Program

variable {possible : (action : Action) → action.Answer → Prop} {k : Nat}

theorem reads_nextEvent (session : Session) : session.nextEvent.ReadsAtMost possible 1 := by
  refine ⟨1, Nat.le_refl 1, fun stopped _ => ?_⟩
  cases stopped with
  | true => trivial
  | false =>
    refine ⟨1, Nat.le_refl 1, fun closed _ => ?_⟩
    cases closed with
    | true => trivial
    | false =>
      refine ⟨0, Nat.le_refl 1, fun next _ => ?_⟩
      cases next <;> trivial

/-- On a hub that has stopped, a session does not even look at its client. -/
theorem reads_nextEvent_stopped (session : Session) :
    session.nextEvent.ReadsAtMost Action.PossibleStopped 0 := by
  refine ⟨0, Nat.le_refl 0, fun stopped hs => ?_⟩
  cases stopped with
  | true => trivial
  | false => cases hs

theorem reads_turn (policy : GreetingPolicy) {session : Session}
    (h : session.nextEvent.ReadsAtMost possible k) :
    (session.turn policy).ReadsAtMost possible k := by
  refine ReadsAtMost.bind (j := 0) h fun event => ?_
  cases event with
  | none => trivial
  | some event =>
    have hrest : (do
        let state ← session.onEvent policy event
        let state ← session.wrapUp state
        return some { session with state }).Within
        [.register, .deliver, .remove, .close, .now, .other] := by
      refine Within.bind (within_onEvent policy session event) fun state => ?_
      exact Within.bind ((within_wrapUp session state).mono (by decide)) fun _ => within_pure
    exact hrest.readsAtMost (by decide)

end Session

theorem Call.reads_program {possible : (action : Action) → action.Answer → Prop} {k : Nat}
    (settings : HubSettings) (call : Call)
    (h : ∀ session : Session, session.nextEvent.ReadsAtMost possible k) :
    (call.program settings).ReadsAtMost possible k := by
  have hnone : ∀ {kinds : List Action.Kind}, (call.program settings).Within kinds →
      .receive ∉ kinds → (call.program settings).ReadsAtMost possible k :=
    fun hw hk => (hw.readsAtMost hk).mono (Nat.zero_le k) fun _ _ ha => ha
  cases call with
  | connect inbound =>
    exact hnone (Program.Within.bind (Session.within_start _ _) fun _ => Program.within_pure)
      (by decide)
  | turn session =>
    exact Program.ReadsAtMost.bind (j := 0) (session.reads_turn settings.policy (h session))
      fun _ => Program.readsAtMost_pure
  | openListener name =>
    exact hnone (Program.Within.bind (Program.within_openListener _ _)
      fun _ => Program.within_pure) (by decide)
  | letGo listener =>
    exact hnone (Program.Within.bind (Program.within_letGo _) fun _ => Program.within_pure)
      (by decide)
  | submit message =>
    exact hnone (Program.Within.bind (Program.within_submit _) fun _ => Program.within_pure)
      (by decide)
  | broadcast message =>
    exact hnone (Program.Within.bind (Program.within_broadcast _) fun _ => Program.within_pure)
      (by decide)
  | shutDown =>
    exact hnone (Program.Within.bind Program.within_shutDown fun _ => Program.within_pure)
      (by decide)

/-! ### How often a task reads from a client -/

/-- Whether what is left of a task's call reads at most so often. -/
def World.Task.ReadsAtMost (possible : (action : Action) → action.Answer → Prop) (k : Nat) :
    World.Task → Prop
  | .idle _ => True
  | .busy _ _ rest => rest.ReadsAtMost possible k

namespace World.Task

variable {possible : (action : Action) → action.Answer → Prop} {k : Nat}

theorem reads_goOn {call : Call} {past : List Event} {rest : Program Resting}
    (h : rest.ReadsAtMost possible k) : (goOn call past rest).ReadsAtMost possible k := by
  cases rest with
  | done resting => trivial
  | step action next => exact h

theorem ReadsAtMost.mono {possible' : (action : Action) → action.Answer → Prop} {k' : Nat}
    {task : World.Task} (h : task.ReadsAtMost possible k) (hk : k ≤ k')
    (hp : ∀ action answer, possible' action answer → possible action answer) :
    task.ReadsAtMost possible' k' := by
  cases task with
  | idle resting => trivial
  | busy call past rest => exact Program.ReadsAtMost.mono h hk hp

/-- Whatever a task is doing, it reads at most once before it is at rest. -/
theorem reads_once (settings : HubSettings) : World.Task.Invariant settings (fun _ => True)
    (ReadsAtMost (fun _ _ => True) 1) := by
  have hbegin : ∀ call, (begin settings call).ReadsAtMost (fun _ _ => True) 1 :=
    fun call => reads_goOn (call.reads_program settings Session.reads_nextEvent)
  refine ⟨fun _ => hbegin _, fun _ _ _ => hbegin _, fun _ _ _ => hbegin _, fun _ _ => hbegin _, ?_⟩
  rintro call past action next ⟨j, hj, hnext⟩ answer
  have hrest := hnext answer trivial
  exact reads_goOn (hrest.mono (Nat.le_trans (Nat.le_add_left _ _) hj) fun _ _ ha => ha)

end World.Task

/-- Whether something that arrived from a client is taken up by the event. -/
def Event.takesItem : Event → Bool
  | ⟨.receive _, .arrival _⟩ => true
  | _ => false

theorem Event.takesItem_le (event : Event) :
    (if event.takesItem then 1 else 0) ≤ event.action.reads := by
  obtain ⟨action, answer⟩ := event
  cases action with
  | receive inbound =>
    cases answer with
    | arrival arrival => exact Nat.le_refl 1
    | waiting => exact Nat.zero_le 1
    | ended => exact Nat.zero_le 1
  | _ => exact Nat.le_refl 0

namespace World

/-- How many items from its client a task takes up in a run. -/
def handled (task : Nat) (choices : List Choice) (world : World) : Nat :=
  (events choices world).countP fun done => done.1 = task && done.2.takesItem

variable {world : World} {task k : Nat}

theorem handled_cons (choice : Choice) (rest : List Choice) :
    handled task (choice :: rest) world =
      (world.event? choice).toList.countP (fun done => done.1 = task && done.2.takesItem) +
        handled task rest (world.step choice) :=
  List.countP_append

theorem stopped_step (choice : Choice) (hs : world.store.stopped = true) :
    (world.step choice).store.stopped = true := by
  by_cases hact : ∃ index time, choice = .act index time
  · obtain ⟨index, time, rfl⟩ := hact
    cases hnext : world.next? index with
    | none =>
      rw [step_act_of_none hnext]
      exact hs
    | some found =>
      obtain ⟨call, past, action⟩ := found
      obtain ⟨next, hget⟩ := exists_next hnext
      rw [step_act hget]
      exact Action.stopped_mono hs
  · rw [(step_of_not_act fun index time heq => hact ⟨index, time, heq⟩).2]
    exact hs

theorem stopped_run (choices : List Choice) (hs : world.store.stopped = true) :
    (world.run choices).store.stopped = true := by
  induction choices generalizing world with
  | nil => exact hs
  | cons choice rest ih => exact ih (stopped_step choice hs)

theorem handled_of_other {choice : Choice} (hne : ∀ time, choice ≠ .act task time) :
    (world.event? choice).toList.countP (fun done => done.1 = task && done.2.takesItem) = 0 := by
  cases choice with
  | act other time =>
    have hother : other ≠ task := fun heq => hne time (heq ▸ rfl)
    simp only [event?]
    cases world.next? other with
    | none => rfl
    | some found => simp [hother]
  | _ => rfl

/-- **On a hub that has stopped a task takes up at most as many items as its call still reads.** -/
theorem handled_le (choices : List Choice) (hs : world.store.stopped = true)
    (hk : ∀ t, world.tasks[task]? = some t → t.ReadsAtMost Action.PossibleStopped k) :
    handled task choices world ≤ k := by
  induction choices generalizing world k with
  | nil => exact Nat.zero_le k
  | cons choice rest ih =>
    have hstopped := stopped_step choice hs
    rw [handled_cons]
    by_cases hact : ∃ time, choice = .act task time
    · obtain ⟨time, rfl⟩ := hact
      cases hnext : world.next? task with
      | none =>
        rw [step_act_of_none hnext, event?, hnext]
        exact (Nat.zero_add _).trans_le (ih hs hk)
      | some found =>
        obtain ⟨call, past, action⟩ := found
        obtain ⟨next, hget⟩ := exists_next hnext
        obtain ⟨j, hj, hrest⟩ := hk _ hget
        have hpossible : action.PossibleStopped (action.perform time world.store).1 :=
          Action.possibleStopped_perform hs
        have hanswer := hrest _ hpossible
        have hlater : handled task rest (world.step (.act task time)) ≤ j := by
          refine ih hstopped fun t ht => ?_
          rw [step_act hget, List.getElem?_set_self (List.getElem?_eq_some_iff.1 hget).1] at ht
          cases ht
          exact World.Task.reads_goOn hanswer
        have hnow : (world.event? (.act task time)).toList.countP
            (fun done => done.1 = task && done.2.takesItem) ≤ action.reads := by
          have hevent := Event.takesItem_le ⟨action, (action.perform time world.store).1⟩
          simp only [event?, hnext, Option.map_some, Option.toList_some, List.countP_singleton,
            decide_true, Bool.true_and]
          exact hevent
        calc _ ≤ action.reads + j := Nat.add_le_add hnow hlater
          _ ≤ k := hj
    · have hne : ∀ time, choice ≠ .act task time := fun time heq => hact ⟨time, heq⟩
      rw [handled_of_other hne, Nat.zero_add]
      refine ih hstopped fun t ht => ?_
      rcases getElem?_step hne ht with hold | ⟨call, rfl⟩
      · exact hk t hold
      · -- a call that begins on a hub that has stopped reads nothing
        have hreads := call.reads_program world.settings Session.reads_nextEvent_stopped
        exact World.Task.reads_goOn (hreads.mono (Nat.zero_le k) fun _ _ ha => ha)

/-! ### When everybody has come to rest -/

/-- Whether no call is in progress and all sessions are over. -/
def Finished (world : World) : Prop := ∀ task ∈ world.tasks, task.isDone = true

instance (world : World) : Decidable world.Finished :=
  inferInstanceAs (Decidable (∀ task ∈ world.tasks, task.isDone = true))

/-- Whether such a call has returned. -/
def HasReturned (world : World) (call : Call) : Prop :=
  ∃ task ∈ world.tasks, task.hasReturned call = true

instance (world : World) (call : Call) : Decidable (world.HasReturned call) :=
  inferInstanceAs (Decidable (∃ task ∈ world.tasks, task.hasReturned call = true))

variable {notes : Multiset Note} {n : Name} {e : EndpointId}

theorem Finished.atRest (h : world.Finished) : world.AtRest :=
  fun task hm => World.Task.isIdle_of_isDone (h task hm)

/-- The notes that matter then say that an endpoint is retired or is a listener's own. -/
theorem Finished.retired_or_settled (h : world.Finished) (ha : Accounts world.tasks notes)
    {note : Note} (hm : note ∈ notes) (hi : ¬note.Idle) : ∃ n e, note = .settled n e := by
  obtain ⟨resting, htask, hstake⟩ := h.atRest.exists_stake ha hm hi
  have hdone := h _ htask
  cases resting with
  | session session =>
    have hnote : note = session.note := Multiset.mem_singleton.1 hstake
    have hover : session.isOver = true := hdone
    unfold Session.isOver at hover
    unfold Session.note at hnote
    cases hs : session.state with
    | closed outcome =>
      rw [hs] at hnote
      rw [hnote] at hi
      exact absurd trivial hi
    | awaitingHello | active | closing =>
      rw [hs] at hover
      cases hover
  | listener listener =>
    have hnote : note = listener.note := Multiset.mem_singleton.1 hstake
    unfold Listener.note at hnote
    split at hnote
    · exact ⟨_, _, hnote⟩
    · rw [hnote] at hi
      exact absurd trivial hi
  | returned call =>
    cases call with
    | shutDown =>
      rw [Multiset.mem_singleton.1 hstake] at hi
      exact absurd trivial hi
    | _ => exact absurd hstake (Multiset.notMem_zero _)

/-- After a shutdown has returned, the registry was emptied. -/
theorem HasReturned.swept (h : world.HasReturned .shutDown) (ha : Accounts world.tasks notes)
    (hb : Books world.store world.log notes) : Swept world.log := by
  obtain ⟨task, hm, hreturned⟩ := h
  obtain ⟨index, hget⟩ := List.mem_iff_getElem?.1 hm
  obtain ⟨own, rest, hledger, rfl, _⟩ := ha.exists_ledger hget
  unfold World.Task.hasReturned at hreturned
  split at hreturned
  · rename_i other
    have hcall : other = .shutDown := by simpa using hreturned
    subst hcall
    obtain ⟨_, idle, _, rfl⟩ := hledger
    have hswept : Note.swept ∈ idle + (Resting.returned .shutDown).stake + rest :=
      Multiset.mem_add.2 (.inl (Multiset.mem_add.2 (.inr (Multiset.mem_singleton.2 rfl))))
    exact hb.sound _ hswept
  · cases hreturned

/-- **After a shutdown, when everybody has come to rest, no name is held.** -/
theorem Finished.not_binds (h : world.Finished) (ha : Accounts world.tasks notes)
    (hb : Books world.store world.log notes) (hswept : Swept world.log) :
    ¬world.store.Binds n e := by
  intro hbinds
  rcases hb.held_of_binds hbinds with hm | hm
  · obtain ⟨_, _, heq⟩ := h.retired_or_settled ha hm id
    cases heq
  · exact (hb.sound _ hm).2 hswept hbinds

/-- **Then no endpoint is open.** -/
theorem Finished.closed_of_has (h : world.Finished) (ha : Accounts world.tasks notes)
    (hb : Books world.store world.log notes) (hswept : Swept world.log)
    (hh : world.store.Has e) : world.store.Closed e := by
  apply Decidable.byContradiction
  intro hc
  rcases hb.accounted hh hc with ⟨n, hbinds⟩ | hm | hm
  · exact h.not_binds ha hb hswept hbinds
  · obtain ⟨_, _, heq⟩ := h.retired_or_settled ha hm id
    cases heq
  · exact h.atRest.not_owes ha e hm

end World

/-- **A shutdown leaves nothing behind**, in whatever order the actions of all tasks come. Once the
stop signal is given it stays, and each session takes up at most one more item from its client. And
whenever a shutdown has returned, no call is in progress and all sessions are over, nobody holds a
name and every endpoint ever made is closed. -/
theorem shutdown_leaves_nothing (settings : HubSettings) (choices : List Choice) :
    let world := (World.new settings).run choices
    (world.store.stopped = true → ∀ more,
      (world.run more).store.stopped = true ∧ ∀ task, World.handled task more world ≤ 1) ∧
    (world.HasReturned .shutDown → world.Finished →
      world.store.registry = .empty ∧ ∀ e, world.store.Has e → world.store.Closed e) := by
  intro world
  refine ⟨fun hs more => ⟨World.stopped_run more hs, fun task => ?_⟩, fun hreturned hfinished => ?_⟩
  · have hreads : ∀ t ∈ world.tasks, t.ReadsAtMost (fun _ _ => True) 1 :=
      (World.Task.reads_once settings).run choices rfl (fun t hm => by cases hm) fun _ _ => trivial
    refine World.handled_le more hs fun t ht => ?_
    exact (hreads t (List.mem_of_getElem? ht)).mono (Nat.le_refl 1) fun _ _ _ => trivial
  · obtain ⟨notes, ha, hb⟩ := World.sound_run settings choices
    have hswept : Swept world.log := hreturned.swept ha hb
    refine ⟨Registry.eq_empty_of_lookup fun n => ?_, fun e => hfinished.closed_of_has ha hb hswept⟩
    rw [Option.eq_none_iff_forall_ne_some]
    exact fun e hbinds => hfinished.not_binds ha hb hswept hbinds

namespace Sample

/-- A client connects; a listener passes its check; the hub is stopped; the listener registers and
is given back; the session finds the signal instead of what its client says. -/
def closing : List Choice :=
  [.connect, .act 0 ⟨1⟩, .act 0 ⟨1⟩, .ask (.openListener alice), .act 1 ⟨2⟩,
    .arrive ⟨0⟩ (.message ⟨bob, .empty⟩), .ask .shutDown, .act 2 ⟨3⟩, .act 2 ⟨3⟩,
    .act 1 ⟨4⟩, .act 1 ⟨4⟩, .act 1 ⟨4⟩, .act 1 ⟨4⟩, .act 1 ⟨4⟩, .act 1 ⟨4⟩, .act 1 ⟨4⟩, .act 1 ⟨4⟩,
    .wake 0, .act 0 ⟨5⟩, .act 0 ⟨5⟩, .act 0 ⟨5⟩]

end Sample

/-- A listener that registers after the sweep leaves nothing behind. -/
theorem shutdown_leaves_nothing_closing :
    ((World.new {}).run Sample.closing).HasReturned .shutDown ∧
      ((World.new {}).run Sample.closing).Finished ∧
      ((World.new {}).run Sample.closing).store.registry = .empty := by
  have hreturned : ((World.new {}).run Sample.closing).HasReturned .shutDown := by decide
  have hfinished : ((World.new {}).run Sample.closing).Finished := by decide
  obtain ⟨_, hnothing⟩ := shutdown_leaves_nothing {} Sample.closing
  exact ⟨hreturned, hfinished, (hnothing hreturned hfinished).1⟩

end BroadcastChat
