/-
# Runs by cues

A move names listeners and endpoints by their numbers, and which numbers there
are depends on everything that was opened before. A cue says the same without
numbers: the second listener that was opened as Alice is let go of, whatever its
endpoint is called. So one cue makes sense in different runs, and two runs can be
compared cue by cue. A scene is a run so far, in which each cue is played as the
move that it stands for (`Scene.move?`).

Key definitions: `Receiver`, `Cue`, `Scene`, `Scene.move?`, `Scene.run`,
`Scene.accepted`, `Scene.read`, `Scene.answers`.
Key theorems: `Scene.accepted_eq`, `Scene.readFrom_of_not_has`,
`Stage.has_of_step`, `Scene.exists_receiver`, `Scene.exists_cues`.
-/
import BroadcastChat.Proofs.Coherence
import BroadcastChat.Proofs.Inflow

namespace BroadcastChat

variable {time : Timestamp} {e : EndpointId}

/-- Whose stream it is. -/
inductive Receiver where
  | session (id : SessionId)
  /-- The listener that was opened under the name after so many others. -/
  | listener (name : Name) (index : Nat)
  deriving DecidableEq

/-- What can happen to a hub, in words that do not depend on what happened before. -/
inductive Cue where
  | submit (message : Message)
  | openListener (name : Name)
  /-- The listener that was opened under the name after so many others is let go of. -/
  | letGo (name : Name) (index : Nat)
  | openSession
  | arrive (id : SessionId) (arrival : Arrival)
  | endInput (id : SessionId)
  | turn (id : SessionId)
  | read (receiver : Receiver)
  | dropOutbound (id : SessionId)
  | shutDown
  deriving DecidableEq

namespace Moment

/-- The listener that is opened in the moment. -/
def opened? (moment : Moment) : Option Listener :=
  match moment.move with
  | .openListener name => some (moment.stage.hub.openListener moment.time name).1
  | _ => none

/-- What a submit is answered in the moment. -/
def answer? (moment : Moment) : Option (Except NotSubscribed Report) :=
  match moment.move with
  | .submit message => some (moment.stage.hub.submit moment.time message).1
  | _ => none

end Moment

/-- A run so far: the moves that were made on a new hub. -/
structure Scene where
  settings : HubSettings
  moves : List (Timestamp × Move)

namespace Scene

/-- Nothing has happened. -/
def new (settings : HubSettings) : Scene := ⟨settings, []⟩

section

variable (scene : Scene)

/-- Where the run has got to. -/
def stage : Stage := (Stage.new scene.settings).run scene.moves

/-- What has happened, moment by moment. -/
def past : List Moment := history scene.moves (.new scene.settings)

/-- Every listener that was ever opened, the first one first. -/
def opened : List Listener := scene.past.filterMap Moment.opened?

/-- The listener that was opened under the name after so many others. -/
def listener? (name : Name) (index : Nat) : Option Listener :=
  (scene.opened.filter (·.name = name))[index]?

/-- The endpoint from which a receiver reads. -/
def endpoint? : Receiver → Option EndpointId
  | .session id => (scene.stage.hub.session? id).map (·.endpoint)
  | .listener name index => (scene.listener? name index).map (·.endpoint)

/-- The move that a cue stands for, if there is whom it is about. -/
def move? : Cue → Option Move
  | .submit message => some (.submit message)
  | .openListener name => some (.openListener name)
  | .letGo name index => (scene.listener? name index).map .letGo
  | .openSession => some .openSession
  | .arrive id arrival => some (.arrive id arrival)
  | .endInput id => some (.endInput id)
  | .turn id => some (.turn id)
  | .read receiver => (scene.endpoint? receiver).map .read
  | .dropOutbound id => some (.dropOutbound id)
  | .shutDown => some .shutDown

/-- The scene after one more move. -/
def make (time : Timestamp) (move : Move) : Scene :=
  { scene with moves := scene.moves ++ [(time, move)] }

/-- The scene after a cue; nothing happens if there is nobody whom it is about. -/
def step (time : Timestamp) (cue : Cue) : Scene :=
  match scene.move? cue with
  | none => scene
  | some move => scene.make time move

/-- The scene after these cues. -/
def run (cues : List (Timestamp × Cue)) : Scene :=
  cues.foldl (fun scene cue => scene.step cue.1 cue.2) scene

/-- The messages that a receiver's endpoint has accepted, in order. -/
def accepted (receiver : Receiver) : List Delivery :=
  (scene.endpoint? receiver).elim [] (BroadcastChat.accepted (logOf scene.past))

/-- The messages that a receiver has read, in order. -/
def read (receiver : Receiver) : List Delivery :=
  (scene.endpoint? receiver).elim [] (readFrom · scene.past)

/-- What the submits were answered, in order. -/
def answers : List (Except NotSubscribed Report) := scene.past.filterMap Moment.answer?

end

variable {scene : Scene} {move : Move} {cue : Cue}

theorem run_append (scene : Scene) (cues more : List (Timestamp × Cue)) :
    scene.run (cues ++ more) = (scene.run cues).run more :=
  List.foldl_append

theorem step_of_none (h : scene.move? cue = none) : scene.step time cue = scene := by
  rw [step, h]

theorem step_of_some (h : scene.move? cue = some move) :
    scene.step time cue = scene.make time move := by
  rw [step, h]

/-! ### One more move -/

theorem stage_make (scene : Scene) (time : Timestamp) (move : Move) :
    (scene.make time move).stage = scene.stage.step time move :=
  Stage.run_append _ _ _

end Scene

theorem history_append (moves more : List (Timestamp × Move)) (stage : Stage) :
    history (moves ++ more) stage = history moves stage ++ history more (stage.run moves) := by
  induction moves generalizing stage with
  | nil => rfl
  | cons move rest ih => exact congrArg _ (ih _)

theorem Stage.has_run {stage : Stage} (moves : List (Timestamp × Move))
    (h : stage.hub.store.Has e) : (stage.run moves).hub.store.Has e := by
  refine invariant_run (motive := fun stage => stage.hub.store.Has e) (fun stage time move h => ?_)
    moves h
  obtain ⟨α, p, before, hrun⟩ := Moment.exists_run ⟨stage, time, move⟩
  have hbefore : before.Has e := (hrun.alike.has_iff e).2 h
  have hafter : (p.run time before).2.Has e := Program.has_run hbefore
  rw [← hrun.store_eq] at hafter
  exact hafter

theorem Moment.has_of_read? {moment : Moment} {d : Delivery}
    (h : moment.read? e = some d) : moment.stage.hub.store.Has e := by
  unfold read? at h
  split at h
  · rename_i id _
    split at h
    · rename_i he
      subst he
      apply Decidable.byContradiction
      intro hh
      rw [Hub.read, Store.endpoint_of_not_has hh] at h
      cases h
    · cases h
  · cases h

namespace Scene

variable {scene : Scene} {move : Move}

theorem past_make (scene : Scene) (time : Timestamp) (move : Move) :
    (scene.make time move).past = scene.past ++ [⟨scene.stage, time, move⟩] :=
  history_append _ _ _

theorem opened_make (scene : Scene) (time : Timestamp) (move : Move) :
    (scene.make time move).opened =
      scene.opened ++ (Moment.opened? ⟨scene.stage, time, move⟩).toList := by
  rw [opened, past_make, List.filterMap_append]
  rfl

theorem answers_make (scene : Scene) (time : Timestamp) (move : Move) :
    (scene.make time move).answers =
      scene.answers ++ (Moment.answer? ⟨scene.stage, time, move⟩).toList := by
  rw [answers, past_make, List.filterMap_append]
  rfl

theorem readFrom_make (scene : Scene) (time : Timestamp) (move : Move) (e : EndpointId) :
    readFrom e (scene.make time move).past =
      readFrom e scene.past ++ (Moment.read? e ⟨scene.stage, time, move⟩).toList := by
  rw [readFrom, past_make, List.filterMap_append]
  rfl

/-! ### What a scene is -/

theorem sound (scene : Scene) : scene.stage.Sound (logOf scene.past) :=
  Stage.sound_run scene.settings scene.moves

theorem accepted_eq (scene : Scene) (e : EndpointId) :
    BroadcastChat.accepted (logOf scene.past) e =
      readFrom e scene.past ++ (scene.stage.hub.store.endpoint e).unread :=
  (readFrom_append_unread scene.moves (.new scene.settings) e).symm

/-- Nothing was read from an endpoint that was never made. -/
theorem readFrom_of_not_has (h : ¬scene.stage.hub.store.Has e) : readFrom e scene.past = [] := by
  refine List.filterMap_eq_nil_iff.2 fun moment hm => ?_
  obtain ⟨before, rest, hmoves, hstage⟩ := exists_split_of_mem hm
  cases hr : moment.read? e with
  | none => rfl
  | some d =>
    have hhas : moment.stage.hub.store.Has e := moment.has_of_read? hr
    refine absurd ?_ h
    rw [stage, hmoves, Stage.run_append, ← hstage]
    exact Stage.has_run _ hhas

/-- Nor is anything read from it in the move that makes it. -/
theorem readFrom_make_of_not_has (h : ¬scene.stage.hub.store.Has e) :
    readFrom e (scene.make time move).past = [] := by
  rw [readFrom_make, readFrom_of_not_has h, List.nil_append]
  cases hr : Moment.read? e ⟨scene.stage, time, move⟩ with
  | none => rfl
  | some d => exact absurd (Moment.has_of_read? hr) h

end Scene

/-! ### Every run by cues -/

theorem Store.update_of_not_has {store : Store} (h : ¬store.Has e) (f : Endpoint → Endpoint) :
    store.update e f = store := by
  unfold update
  congr 1
  refine Array.ext (by simp) fun i hi hi' => ?_
  have hne : e.index ≠ i := by
    rintro rfl
    exact h hi'
  rw [Array.getElem_modify, if_neg hne]

theorem Stage.has_of_step {stage : Stage} {move : Move}
    (h : (stage.step time move).hub.store.Has e) :
    stage.hub.store.Has e ∨
      (∃ id session, (stage.step time move).hub.session? id = some session ∧
        session.endpoint = e) ∨
      ∃ listener, Moment.opened? ⟨stage, time, move⟩ = some listener ∧ listener.endpoint = e := by
  cases move with
  | submit message => exact .inl ((Program.within_submit message).has_of_run (by decide) h)
  | openListener name =>
    change ((Program.openListener stage.hub.settings.capacity name).run time
      stage.hub.store).2.Has e at h
    cases hs : stage.hub.store.stopped with
    | false =>
      rw [(Program.openListener_running time hs _ name).1, Program.run_subscribe] at h
      have hmade := (Program.within_takeOver name _).has_of_run (by decide) h
      refine (Store.has_newEndpoint.1 hmade).imp_right fun heq => .inr ⟨_, rfl, ?_⟩
      rw [Hub.openListener, Hub.perform, (Program.openListener_running time hs _ name).1,
        Program.run_subscribe]
      exact heq.symm
    | true =>
      rw [(Program.openListener_stopped time hs _ name).1] at h
      have hmade : (stage.hub.store.newEndpoint 1).2.Has e := Store.has_update.1 h
      refine (Store.has_newEndpoint.1 hmade).imp_right fun heq => .inr ⟨_, rfl, ?_⟩
      rw [Hub.openListener, Hub.perform, (Program.openListener_stopped time hs _ name).1]
      exact heq.symm
  | letGo listener =>
    simp only [step] at h
    split at h
    · exact .inl ((Program.within_letGo listener).has_of_run (by decide) h)
    · exact .inl h
  | openSession =>
    have hmade : (stage.hub.store.newInbound.2.newEndpoint stage.hub.settings.capacity).2.Has e :=
      Store.has_update.1 h
    refine (Store.has_newEndpoint.1 hmade).imp_right fun heq => .inl ?_
    refine ⟨⟨stage.hub.sessions.size⟩, _, Array.getElem?_push_size, heq.symm⟩
  | arrive id arrival => exact .inl (((alike_send stage.hub id arrival).has_iff e).1 h)
  | endInput id => exact .inl (((alike_endInput stage.hub id).has_iff e).1 h)
  | turn id =>
    cases hturn : stage.hub.turn time id with
    | none =>
      simp only [step, hturn, Option.getD_none] at h
      exact .inl h
    | some after =>
      obtain ⟨session, _, _, _, _, rfl⟩ := turn_eq_some hturn
      simp only [step, hturn, Option.getD_some] at h
      exact .inl ((session.within_turn _).has_of_run (by decide) h)
  | read x => exact .inl (Store.has_update.1 h)
  | dropOutbound id =>
    simp only [step] at h
    split at h
    · exact .inl h
    · exact .inl (Store.has_update.1 h)
  | shutDown => exact .inl (Program.within_shutDown.has_of_run (by decide) h)

namespace Scene

/-- What holds of a new scene and is kept by every move holds of all scenes. -/
theorem induction_make {motive : Scene → Prop} (hnew : ∀ settings, motive (.new settings))
    (hmake : ∀ scene time move, motive scene → motive (scene.make time move)) (scene : Scene) :
    motive scene := by
  obtain ⟨settings, moves⟩ := scene
  induction moves using List.reverseRecOn with
  | nil => exact hnew settings
  | append_singleton moves move ih => exact hmake ⟨settings, moves⟩ move.1 move.2 ih

theorem exists_listener? {scene : Scene} {listener : Listener} (h : listener ∈ scene.opened) :
    ∃ index, scene.listener? listener.name index = some listener :=
  List.mem_iff_getElem?.1 (List.mem_filter.2 ⟨h, decide_eq_true rfl⟩)

theorem mem_opened (scene : Scene) :
    ∀ listener ∈ scene.stage.listeners, listener ∈ scene.opened := by
  induction scene using induction_make with
  | hnew settings => exact fun _ hl => nomatch hl
  | hmake scene time move ih =>
    intro listener hl
    rw [stage_make] at hl
    rw [opened_make]
    rcases scene.sound.listener_after hl with ⟨hold, _⟩ | ⟨name, rfl, rfl⟩
    · exact List.mem_append_left _ (ih listener hold)
    · exact List.mem_append_right _ List.mem_cons_self

/-- Every endpoint is that of a session or of a listener. -/
theorem exists_receiver (scene : Scene) :
    ∀ e, scene.stage.hub.store.Has e → ∃ receiver, scene.endpoint? receiver = some e := by
  have howner : ∀ e, scene.stage.hub.store.Has e →
      (∃ id session, scene.stage.hub.session? id = some session ∧ session.endpoint = e) ∨
        ∃ listener ∈ scene.opened, listener.endpoint = e := by
    induction scene using induction_make with
    | hnew settings => exact fun e he => absurd he (Nat.not_lt_zero _)
    | hmake scene time move ih =>
      intro e he
      rw [stage_make] at he ⊢
      rw [opened_make]
      rcases Stage.has_of_step he with he | hsession | ⟨listener, hl, heq⟩
      · rcases ih e he with ⟨id, session, hs, heq⟩ | ⟨listener, hl, heq⟩
        · obtain ⟨state, hafter, _⟩ := Stage.session_step hs time move
          exact .inl ⟨id, _, hafter, heq⟩
        · exact .inr ⟨listener, List.mem_append_left _ hl, heq⟩
      · exact .inl hsession
      · rw [hl]
        exact .inr ⟨listener, List.mem_append_right _ List.mem_cons_self, heq⟩
  intro e he
  rcases howner e he with ⟨id, session, hs, heq⟩ | ⟨listener, hl, heq⟩
  · exact ⟨.session id, Option.map_eq_some_iff.2 ⟨session, hs, heq⟩⟩
  · obtain ⟨index, hindex⟩ := exists_listener? hl
    exact ⟨.listener listener.name index, Option.map_eq_some_iff.2 ⟨listener, hindex, heq⟩⟩

/-- A move for which there is no cue changes nothing. -/
theorem exists_cue (scene : Scene) (time : Timestamp) (move : Move) :
    (∃ cue, scene.move? cue = some move) ∨ scene.stage.step time move = scene.stage := by
  cases move with
  | submit message => exact .inl ⟨.submit message, rfl⟩
  | openListener name => exact .inl ⟨.openListener name, rfl⟩
  | letGo listener =>
    by_cases hl : listener ∈ scene.stage.listeners
    · obtain ⟨index, hindex⟩ := exists_listener? (scene.mem_opened listener hl)
      exact .inl ⟨.letGo listener.name index, Option.map_eq_some_iff.2 ⟨listener, hindex, rfl⟩⟩
    · exact .inr (if_neg hl)
  | openSession => exact .inl ⟨.openSession, rfl⟩
  | arrive id arrival => exact .inl ⟨.arrive id arrival, rfl⟩
  | endInput id => exact .inl ⟨.endInput id, rfl⟩
  | turn id => exact .inl ⟨.turn id, rfl⟩
  | read e =>
    by_cases he : scene.stage.hub.store.Has e
    · obtain ⟨receiver, hreceiver⟩ := scene.exists_receiver e he
      exact .inl ⟨.read receiver, Option.map_eq_some_iff.2 ⟨e, hreceiver, rfl⟩⟩
    · refine .inr ?_
      have hsame := Store.update_of_not_has he fun _ => (scene.stage.hub.store.endpoint e).read.2
      exact congrArg (fun store => ({ scene.stage with
        hub := { scene.stage.hub with store } } : Stage)) hsame
  | dropOutbound id => exact .inl ⟨.dropOutbound id, rfl⟩
  | shutDown => exact .inl ⟨.shutDown, rfl⟩

/-- **Every run can be played by cues**, but for moves that change nothing. -/
theorem exists_cues (settings : HubSettings) (moves : List (Timestamp × Move)) :
    ∃ cues, ((new settings).run cues).moves.Sublist moves ∧
      ((new settings).run cues).stage = (Stage.new settings).run moves := by
  induction moves using List.reverseRecOn with
  | nil => exact ⟨[], .slnil, rfl⟩
  | append_singleton moves move ih =>
    obtain ⟨cues, hmoves, hstage⟩ := ih
    have hafter : (Stage.new settings).run (moves ++ [move]) =
        ((new settings).run cues).stage.step move.1 move.2 := by
      rw [hstage, Stage.run_append]
      rfl
    rcases ((new settings).run cues).exists_cue move.1 move.2 with ⟨cue, hcue⟩ | hidle
    · refine ⟨cues ++ [(move.1, cue)], ?_, ?_⟩
      · rw [run_append]
        change (((new settings).run cues).step move.1 cue).moves.Sublist _
        rw [step_of_some hcue]
        exact hmoves.append (List.Sublist.refl _)
      · rw [run_append, hafter]
        change (((new settings).run cues).step move.1 cue).stage = _
        rw [step_of_some hcue, stage_make]
    · refine ⟨cues, hmoves.trans (List.sublist_append_left _ _), ?_⟩
      rw [hafter, hidle]

end Scene

end BroadcastChat
