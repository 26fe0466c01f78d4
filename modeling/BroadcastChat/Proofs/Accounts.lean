/-
# The books of many tasks

Between any two actions of any tasks the books of the hub are right
(`World.sound_run`): each task has its own notes, which say how far it has come
with its call, and the notes of all tasks together are the hub's. A task in
the middle of a call may still close what it owes and remove what it may
remove; when it comes to rest it is left with what it owns (`Resting.stake`)
and with notes that do not matter any more.

Since one action changes the notes of one task only, the rules of
`Proofs/Conduct.lean` carry over to every order of the actions.

Key definitions: `Resting.stake`, `World.Task.Ledger`, `Accounts`, `World.Sound`.
Key theorems: `Call.keeps_program`, `Accounts.exists_ledger`,
`World.Sound.step`, `World.sound_run`, `World.Sound.closed_or_binds`.
-/
import BroadcastChat.Proofs.Stage
import BroadcastChat.Proofs.World

namespace BroadcastChat

/-! ### Notes of a task -/

namespace Resting

/-- What a task notes while it is at rest. -/
def stake : Resting → Multiset Note
  | .session s => {s.note}
  | .listener l => {l.note}
  | .returned .shutDown => {.swept}
  | .returned _ => 0

/-- Whether a session is not in the middle of its end. -/
def Calm : Resting → Prop
  | .session s => s.Rests
  | _ => True

/-- What a call leaves behind: its result and notes that do not matter any more. -/
def Left (resting : Resting) (own : Multiset Note) : Prop :=
  resting.Calm ∧ ∃ idle, AllIdle idle ∧ own = idle + resting.stake

theorem left_stake {resting : Resting} (h : resting.Calm) : resting.Left resting.stake :=
  ⟨h, 0, allIdle_zero, (zero_add _).symm⟩

end Resting

namespace Call

/-- What a task notes when it begins a call. -/
def stake : Call → Multiset Note
  | .turn session => {session.note}
  | .letGo listener => .parting ::ₘ {listener.note}
  | .submit _ => {.asking}
  | .connect _ | .openListener _ | .broadcast _ | .shutDown => 0

/-- Whether a call is possible: a session takes turns as long as it is not over. -/
def Possible : Call → Prop
  | .turn session => session.Rests ∧ session.isOver = false
  | _ => True

/-- **Every call follows the rules.** -/
theorem keeps_program (settings : HubSettings) {call : Call} (h : call.Possible) :
    (call.program settings).Keeps Resting.Left call.stake := by
  cases call with
  | connect inbound =>
    refine Program.Keeps.bind ((Session.keeps_start settings.capacity inbound).mono ?_)
    rintro session notes ⟨rfl, hstate, -⟩
    have hcalm : (Resting.session session).Calm := by
      intro name outcome heq
      rw [hstate] at heq
      cases heq
    exact Program.keeps_pure (Resting.left_stake hcalm)
  | turn session =>
    obtain ⟨hrests, hover⟩ := h
    have hkeeps : (session.turn settings.policy).Keeps (session.Turned 0) {session.note} :=
      session.keeps_turn settings.policy hrests hover
    refine Program.Keeps.bind (hkeeps.mono ?_)
    intro turned notes hturned
    refine Program.keeps_pure ?_
    cases turned with
    | none =>
      rw [hturned]
      have hcalm : (Resting.session session).Calm := hrests
      exact Resting.left_stake hcalm
    | some after =>
      obtain ⟨hafter, -, -, idle, hi, rfl⟩ := hturned
      exact ⟨hafter, idle, hi, rfl⟩
  | openListener name =>
    refine Program.Keeps.bind ((Program.keeps_openListener settings.capacity name).mono ?_)
    rintro listener notes ⟨idle, hi, rfl⟩
    exact Program.keeps_pure ⟨trivial, idle, hi, rfl⟩
  | letGo listener =>
    have hkeeps : (Program.letGo listener).Keeps
        (fun _ notes => ∃ idle, AllIdle idle ∧ notes = idle + 0)
        (.parting ::ₘ {listener.note}) := Program.keeps_letGo listener (.inl rfl)
    refine Program.Keeps.bind (hkeeps.mono ?_)
    rintro _ notes ⟨idle, hi, rfl⟩
    exact Program.keeps_pure ⟨trivial, idle, hi, rfl⟩
  | submit message =>
    have hkeeps : (Program.submit message).Keeps (fun _ notes => notes = {.asking})
        {.asking} := Program.keeps_submit message
    refine Program.Keeps.bind (hkeeps.mono ?_)
    rintro _ notes rfl
    have hidle : AllIdle (.asking ::ₘ 0) := allIdle_zero.cons trivial
    exact Program.keeps_pure ⟨trivial, _, hidle, (add_zero _).symm⟩
  | broadcast message =>
    refine Program.Keeps.bind ((Program.keeps_broadcast message).mono ?_)
    rintro _ notes rfl
    exact Program.keeps_pure (Resting.left_stake trivial)
  | shutDown =>
    refine Program.Keeps.bind (Program.keeps_shutDown.mono ?_)
    rintro _ notes rfl
    exact Program.keeps_pure (Resting.left_stake trivial)

end Call

/-- The notes that a task may have. -/
def World.Task.Ledger : World.Task → Multiset Note → Prop
  | .idle resting, own => resting.Left own
  | .busy _ _ rest, own => rest.Keeps Resting.Left own

theorem World.Task.ledger_goOn {call : Call} {past : List Event} {rest : Program Resting}
    {own : Multiset Note} (h : rest.Keeps Resting.Left own) : (goOn call past rest).Ledger own := by
  cases rest with
  | done resting => exact h
  | step action next => exact h

/-! ### Notes of all tasks -/

/-- The notes of all tasks together. -/
inductive Accounts : List World.Task → Multiset Note → Prop where
  | nil : Accounts [] 0
  | cons {task tasks own rest} (h : World.Task.Ledger task own) (ht : Accounts tasks rest) :
      Accounts (task :: tasks) (own + rest)

namespace Accounts

variable {tasks : List World.Task} {notes : Multiset Note}

/-- The notes of one task beside those of all others. -/
theorem exists_ledger (h : Accounts tasks notes) {index : Nat} {task : World.Task}
    (hget : tasks[index]? = some task) :
    ∃ own rest, task.Ledger own ∧ notes = own + rest ∧ ∀ after own', World.Task.Ledger after own' →
      Accounts (tasks.set index after) (own' + rest) := by
  induction h generalizing index with
  | nil => cases hget
  | @cons first tasks own₁ rest₁ hfirst ht ih =>
    cases index with
    | zero =>
      cases hget
      exact ⟨own₁, rest₁, hfirst, rfl, fun after own' hafter => .cons hafter ht⟩
    | succ index =>
      obtain ⟨own, rest, hledger, rfl, hset⟩ := ih hget
      refine ⟨own, own₁ + rest, hledger, add_left_comm _ _ _, fun after own' hafter => ?_⟩
      rw [add_left_comm]
      exact .cons hfirst (hset after own' hafter)

theorem snoc (h : Accounts tasks notes) {task : World.Task} {own : Multiset Note}
    (hnew : task.Ledger own) : Accounts (tasks ++ [task]) (own + notes) := by
  induction h with
  | nil => exact .cons hnew .nil
  | cons hfirst _ ih =>
    rw [add_left_comm]
    exact .cons hfirst ih

theorem exists_task (h : Accounts tasks notes) {note : Note} (hm : note ∈ notes) :
    ∃ task ∈ tasks, ∃ own, task.Ledger own ∧ note ∈ own := by
  induction h with
  | nil => exact absurd hm (Multiset.notMem_zero _)
  | @cons first tasks own rest hfirst _ ih =>
    rcases Multiset.mem_add.1 hm with hm | hm
    · exact ⟨first, List.mem_cons_self, own, hfirst, hm⟩
    · obtain ⟨task, htask, hown⟩ := ih hm
      exact ⟨task, List.mem_cons_of_mem _ htask, hown⟩

end Accounts

/-! ### Every step of a run -/

namespace World

/-- The tasks have notes with which the books are right. -/
def Sound (world : World) : Prop :=
  ∃ notes, Accounts world.tasks notes ∧ Books world.store world.log notes

theorem sound_new (settings : HubSettings) : (new settings).Sound := ⟨0, .nil, books_empty⟩

variable {world : World} {notes : Multiset Note}

theorem sound_spawn {call : Call} (ha : Accounts world.tasks notes)
    (hb : Books world.store world.log (call.stake + notes)) (hp : call.Possible) :
    (world.spawn call).Sound :=
  ⟨_, ha.snoc (World.Task.ledger_goOn (Call.keeps_program world.settings hp)), hb⟩

theorem Sound.ask (h : world.Sound) {call : Call} (hp : call.isPublic = true) :
    (world.spawn call).Sound := by
  obtain ⟨notes, ha, hb⟩ := h
  cases call with
  | submit message =>
    refine sound_spawn ha ?_ trivial
    rw [Call.stake, Multiset.singleton_add]
    exact hb.add rfl trivial
  | openListener | broadcast | shutDown =>
    refine sound_spawn ha ?_ trivial
    rw [Call.stake, zero_add]
    exact hb
  | connect | turn | letGo => cases hp

theorem Sound.wake (h : world.Sound) {task : Nat} {session : Session}
    (hget : world.tasks[task]? = some (.idle (.session session)))
    (hover : session.isOver = false) : (world.resume task (.turn session)).Sound := by
  obtain ⟨notes, ha, hb⟩ := h
  obtain ⟨own, rest, ⟨hrests, idle, hi, rfl⟩, rfl, hset⟩ := ha.exists_ledger hget
  rw [add_assoc] at hb
  have hpossible : (Call.turn session).Possible := ⟨hrests, hover⟩
  exact ⟨_, hset _ _ (World.Task.ledger_goOn (Call.keeps_program world.settings hpossible)),
    hb.forgetAll hi⟩

theorem Sound.letGo (h : world.Sound) {task : Nat} {listener : Listener}
    (hget : world.tasks[task]? = some (.idle (.listener listener))) :
    (world.resume task (.letGo listener)).Sound := by
  obtain ⟨notes, ha, hb⟩ := h
  obtain ⟨own, rest, ⟨_, idle, hi, rfl⟩, rfl, hset⟩ := ha.exists_ledger hget
  rw [add_assoc] at hb
  have hparting : Books world.store world.log
      ((Call.letGo listener).stake + rest) := by
    rw [Call.stake, Multiset.cons_add]
    exact (hb.forgetAll hi).add rfl trivial
  have hpossible : (Call.letGo listener).Possible := trivial
  have hkeeps := Call.keeps_program world.settings hpossible
  exact ⟨_, hset _ _ (World.Task.ledger_goOn hkeeps), hparting⟩

/-- An action of one task leaves the notes of all others alone. -/
theorem Sound.act (h : world.Sound) (task : Nat) (time : Timestamp) :
    (world.step (.act task time)).Sound := by
  cases hnext : world.next? task with
  | none =>
    rw [step_act_of_none hnext]
    exact h
  | some found =>
    obtain ⟨call, past, action⟩ := found
    obtain ⟨next, hget⟩ := exists_next hnext
    obtain ⟨notes, ha, hb⟩ := h
    obtain ⟨own, rest, hkeeps, rfl, hset⟩ := ha.exists_ledger hget
    obtain ⟨own', hentry, hafter⟩ := hkeeps (action.perform time world.store).1
    rw [step_act hget]
    exact ⟨own' + rest, hset _ _ (World.Task.ledger_goOn hafter), hb.perform hentry rfl⟩

/-- What happens outside leaves the notes of all tasks alone. -/
theorem Sound.outside (h : world.Sound) {store : Store} (ha : world.store.Alike store) :
    ({ world with store } : World).Sound := by
  obtain ⟨notes, haccounts, hb⟩ := h
  exact ⟨notes, haccounts, hb.alike ha⟩

/-- **The books stay right in every step**, whoever acts. -/
theorem Sound.step (h : world.Sound) (choice : Choice) : (world.step choice).Sound := by
  cases choice with
  | connect =>
    obtain ⟨notes, ha, hb⟩ := h.outside (Store.alike_inbounds world.store _)
    refine sound_spawn ha ?_ trivial
    rw [Call.stake, zero_add]
    exact hb
  | ask call =>
    by_cases hp : call.isPublic = true
    · simp only [World.step, if_pos hp]
      exact h.ask hp
    · simp only [World.step, if_neg hp]
      exact h
  | wake task =>
    simp only [World.step]
    split
    · rename_i session hget
      by_cases hover : session.isOver = true
      · rw [if_pos hover]
        exact h
      · rw [if_neg hover]
        exact h.wake hget (Bool.eq_false_iff.2 hover)
    · exact h
  | letGo task =>
    simp only [World.step]
    split
    · rename_i listener hget
      exact h.letGo hget
    · exact h
  | act task time => exact h.act task time
  | arrive inbound arrival =>
    simp only [World.step]
    split
    · exact h.outside (Store.alike_inbounds world.store _)
    · exact h
  | endInput inbound => exact h.outside (Store.alike_inbounds world.store _)
  | read endpoint => exact h.outside (Store.alike_read _ _)
  | dropStream endpoint =>
    obtain ⟨notes, ha, hb⟩ := h
    have hquiet : (Action.drop endpoint).Quiet := trivial
    have hafter : BooksAfter ⟨0⟩ world.store world.log (.drop endpoint) notes := hb.quiet hquiet
    exact ⟨notes, ha, hafter⟩

/-- **The books are right at every time of a run**, in whatever order the tasks act. -/
theorem Sound.run (choices : List Choice) (h : world.Sound) : (world.run choices).Sound := by
  induction choices generalizing world with
  | nil => exact h
  | cons choice rest ih => exact ih (h.step choice)

theorem sound_run (settings : HubSettings) (choices : List Choice) :
    ((new settings).run choices).Sound :=
  (sound_new settings).run choices

/-! ### When all tasks are at rest -/

/-- A note that matters is then one of somebody's stake. -/
theorem AtRest.exists_stake (h : world.AtRest) (ha : Accounts world.tasks notes) {note : Note}
    (hm : note ∈ notes) (hi : ¬note.Idle) :
    ∃ resting, .idle resting ∈ world.tasks ∧ note ∈ resting.stake := by
  obtain ⟨task, htask, own, hledger, hown⟩ := ha.exists_task hm
  obtain ⟨resting, rfl⟩ := World.Task.exists_resting (h task htask)
  obtain ⟨_, idle, hidle, rfl⟩ := hledger
  rcases Multiset.mem_add.1 hown with hown | hown
  · exact absurd (hidle note hown) hi
  · exact ⟨resting, htask, hown⟩

/-- Nobody owes anything then. -/
theorem AtRest.not_owes (h : world.AtRest) (ha : Accounts world.tasks notes) (e : EndpointId) :
    .owes e ∉ notes := by
  intro hm
  obtain ⟨resting, _, hstake⟩ := h.exists_stake ha hm (by simp [Note.Idle])
  cases resting with
  | session session =>
    have howned := session.owned_note
    rw [← Multiset.mem_singleton.1 hstake] at howned
    cases howned
  | listener listener =>
    have howned := listener.owned_note
    rw [← Multiset.mem_singleton.1 hstake] at howned
    cases howned
  | returned call => cases call <;> simp [Resting.stake] at hstake

/-- Who was registered is bound or closed then. -/
theorem Sound.closed_or_binds (h : world.Sound) (hrest : world.AtRest) {n : Name} {e : EndpointId}
    (hr : Registered world.log n e) : world.store.Closed e ∨ world.store.Binds n e := by
  obtain ⟨notes, ha, hb⟩ := h
  exact hb.closed_or_binds (hrest.not_owes ha e) hr

end World

end BroadcastChat
