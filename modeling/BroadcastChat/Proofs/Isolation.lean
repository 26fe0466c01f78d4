/-
# Listeners affect nobody else

Two runs of a hub in which everybody but the listeners of one name gets the same
cues look the same to everybody but these listeners. Each of the two is compared
with the run in which the name's listeners do nothing at all (`others`), which is
the same run for both: whatever these listeners do, the run and the one without
them mirror each other at every step (`Scene.exists_mirrors`). So whether such a
listener reads in time, is full, is pruned in the middle of a broadcast, is let go
of, opened again or was never there makes no difference to what others accept and
read, how sessions end, what submits are answered and which other names are held.

Key definitions: `Move.Twins`, `Move.Aside`, `Scene.Mirrors`,
`Cue.isListener`, `others`.
Key theorems: `Stage.Mirrors.alongside`, `Stage.Mirrors.aside`,
`Scene.Mirrors.make`, `Scene.Mirrors.make_aside`, `Scene.exists_mirrors`,
`listener_isolation`.
-/
import BroadcastChat.Proofs.Cues
import BroadcastChat.Proofs.Twins

namespace BroadcastChat

variable {n name : Name} {pairing : Pairing} {time : Timestamp} {e x : EndpointId}

/-- What is found in both or in neither stays so. -/
theorem rel_map {α β γ δ : Type} {r : α → β → Prop} {s : γ → δ → Prop} {f : α → γ} {g : β → δ}
    {a : Option α} {b : Option β} (h : Option.Rel r a b) (hfg : ∀ x y, r x y → s (f x) (g y)) :
    Option.Rel s (a.map f) (b.map g) := by
  cases h with
  | none => exact .none
  | some h => exact .some (hfg _ _ h)

/-! ### Moves -/

/-- The moves do the same to twins, and have nothing to do with the name. -/
inductive Move.Twins (pairing : Pairing) (n : Name) : Move → Move → Prop
  | submit {message : Message} (h : message.sender ≠ n) :
      Twins pairing n (.submit message) (.submit message)
  | openListener {name : Name} (h : name ≠ n) :
      Twins pairing n (.openListener name) (.openListener name)
  | letGo {listener listener' : Listener} (h : listener.Twins pairing n listener') :
      Twins pairing n (.letGo listener) (.letGo listener')
  | openSession : Twins pairing n .openSession .openSession
  | arrive (id : SessionId) (arrival : Arrival) :
      Twins pairing n (.arrive id arrival) (.arrive id arrival)
  | endInput (id : SessionId) : Twins pairing n (.endInput id) (.endInput id)
  | turn (id : SessionId) : Twins pairing n (.turn id) (.turn id)
  | read {e x : EndpointId} (h : pairing.twins e x) : Twins pairing n (.read e) (.read x)
  | dropOutbound (id : SessionId) : Twins pairing n (.dropOutbound id) (.dropOutbound id)
  | shutDown : Twins pairing n .shutDown .shutDown

/-- A listener of the name makes the move. -/
inductive Move.Aside (pairing : Pairing) (n : Name) : Move → Prop
  | openListener : Aside pairing n (.openListener n)
  | letGo {listener : Listener} (h : listener.IsStray pairing n) : Aside pairing n (.letGo listener)
  | read {e : EndpointId} (h : pairing.stray e) : Aside pairing n (.read e)

/-- After two moments the stages mirror each other, though more endpoints may be twins by then, and
the listeners that were opened go together. -/
def Moment.Alongside (n : Name) (pairing : Pairing) (moment bare : Moment) : Prop :=
  ∃ larger : Pairing, pairing.Extends moment.stage.hub.store bare.stage.hub.store larger ∧
    moment.after.Mirrors n larger bare.after ∧
    Beside (Listener.Twins larger n) (Listener.IsStray larger n) moment.opened?.toList
      bare.opened?.toList

/-- If no listener is opened and the endpoints are known as before. -/
theorem Moment.alongside_of_same {moment bare : Moment}
    (h : moment.after.Mirrors n pairing bare.after) (hnone : moment.opened? = none)
    (hnone' : bare.opened? = none) : moment.Alongside n pairing bare := by
  refine ⟨pairing, .refl _ _ _, h, ?_⟩
  rw [hnone, hnone']
  exact .nil

namespace Stage.Mirrors

variable {stage bare : Stage} {move move' : Move} (h : stage.Mirrors n pairing bare)
include h

/-- **What everybody else does keeps two stages alike.** -/
theorem alongside {log log' : List Event} (hsound : stage.Sound log) (hsound' : bare.Sound log')
    (hmove : move.Twins pairing n move') (hbefore : stage.Unclaimed n)
    (hafter : (stage.step time move).Unclaimed n ∨ (bare.step time move').Unclaimed n) :
    Moment.Alongside n pairing ⟨stage, time, move⟩ ⟨bare, time, move'⟩ := by
  cases hmove with
  | submit hsender => exact Moment.alongside_of_same (h.submit hsender).1 rfl rfl
  | openListener hname =>
    obtain ⟨larger, hext, hmirrors, htwins⟩ := h.openListener time hname
    exact ⟨larger, hext, hmirrors, .cons htwins .nil⟩
  | letGo htwins => exact Moment.alongside_of_same (h.letGo htwins) rfl rfl
  | openSession =>
    obtain ⟨larger, hext, hmirrors⟩ := h.openSession time
    exact ⟨larger, hext, hmirrors, .nil⟩
  | arrive id arrival => exact Moment.alongside_of_same (h.arrive id arrival) rfl rfl
  | endInput id => exact Moment.alongside_of_same (h.endInput id) rfl rfl
  | turn id =>
    have hturn := h.turn hsound.rests hsound'.rests hbefore hafter
    exact Moment.alongside_of_same hturn rfl rfl
  | read htwins => exact Moment.alongside_of_same (h.read htwins) rfl rfl
  | dropOutbound id => exact Moment.alongside_of_same (h.dropOutbound id) rfl rfl
  | shutDown => exact Moment.alongside_of_same h.shutDown rfl rfl

/-- What a listener of the name does shows on one stage only. -/
theorem aside (time : Timestamp) (hmove : move.Aside pairing n) :
    ∃ larger : Pairing, pairing.Extends stage.hub.store bare.hub.store larger ∧
      (stage.step time move).Mirrors n larger bare ∧
      Beside (Listener.Twins larger n) (Listener.IsStray larger n)
        (Moment.opened? ⟨stage, time, move⟩).toList [] := by
  cases hmove with
  | openListener =>
    obtain ⟨larger, hext, hmirrors, hstray⟩ := h.openListener_aside time
    exact ⟨larger, hext, hmirrors, .skip hstray .nil⟩
  | letGo hstray => exact ⟨pairing, .refl _ _ _, h.letGo_aside hstray, .nil⟩
  | read hstray => exact ⟨pairing, .refl _ _ _, h.read_aside hstray, .nil⟩

theorem read?_eq (hmove : move.Twins pairing n move') (htwins : pairing.twins e x) :
    Moment.read? e ⟨stage, time, move⟩ = Moment.read? x ⟨bare, time, move'⟩ := by
  cases hmove with
  | @read d y hread =>
    have hiff : d = e ↔ y = x :=
      ⟨fun heq => pairing.right_unique (heq ▸ hread) htwins,
        fun heq => pairing.left_unique (heq ▸ hread) htwins⟩
    simp only [Moment.read?, hiff, h.reading_eq hread]
  | _ => rfl

theorem answer?_eq (hmove : move.Twins pairing n move') :
    (Moment.answer? ⟨stage, time, move⟩).map (Except.map (Report.without n)) =
      Moment.answer? ⟨bare, time, move'⟩ := by
  cases hmove with
  | submit hsender => exact congrArg some (h.submit hsender).2
  | _ => rfl

end Stage.Mirrors

/-- Nobody else's endpoint is read in a move that a listener of the name makes, and no submit is
answered. -/
theorem Move.Aside.silent {move : Move} (h : move.Aside pairing n) (stage : Stage)
    (time : Timestamp) :
    (∀ {e x}, pairing.twins e x → Moment.read? e ⟨stage, time, move⟩ = none) ∧
      Moment.answer? ⟨stage, time, move⟩ = none := by
  cases h with
  | openListener => exact ⟨fun _ => rfl, rfl⟩
  | letGo _ => exact ⟨fun _ => rfl, rfl⟩
  | @read d hstray =>
    refine ⟨fun {e x} htwins => ?_, rfl⟩
    exact if_neg fun heq : d = e => pairing.not_stray htwins (heq ▸ hstray)

/-! ### Scenes -/

/-- The second scene is the first one without the listeners of the name. -/
structure Scene.Mirrors (n : Name) (pairing : Pairing) (scene bare : Scene) : Prop where
  stage : scene.stage.Mirrors n pairing bare.stage
  opened : Beside (Listener.Twins pairing n) (Listener.IsStray pairing n) scene.opened bare.opened
  readFrom_eq : ∀ {e x}, pairing.twins e x → readFrom e scene.past = readFrom x bare.past
  answers_eq : scene.answers.map (Except.map (Report.without n)) = bare.answers

namespace Scene.Mirrors

theorem new (settings : HubSettings) (n : Name) :
    (Scene.new settings).Mirrors n .empty (.new settings) where
  stage := Stage.Mirrors.new settings n
  opened := .nil
  readFrom_eq h := h.elim
  answers_eq := rfl

variable {scene bare : Scene} {move move' : Move} (h : scene.Mirrors n pairing bare)
include h

/-! #### One more move -/

/-- Everybody else makes a move. -/
theorem make (hmove : move.Twins pairing n move') (hbefore : scene.stage.Unclaimed n)
    (hafter : (scene.make time move).stage.Unclaimed n ∨
      (bare.make time move').stage.Unclaimed n) :
    ∃ larger, (scene.make time move).Mirrors n larger (bare.make time move') := by
  rw [stage_make, stage_make] at hafter
  obtain ⟨larger, hext, hstage, hopened⟩ :=
    h.stage.alongside scene.sound bare.sound hmove hbefore hafter
  refine ⟨larger, ?_, ?_, fun {e x} htwins => ?_, ?_⟩
  · rw [stage_make, stage_make]
    exact hstage
  · rw [opened_make, opened_make]
    exact (h.opened.listeners_mono hext).append hopened
  · rcases hext.of_twins htwins with hold | ⟨hnew, hnew'⟩
    · rw [readFrom_make, readFrom_make, h.readFrom_eq hold, h.stage.read?_eq hmove hold]
    · rw [readFrom_make_of_not_has hnew, readFrom_make_of_not_has hnew']
  · rw [answers_make, answers_make, List.map_append, h.answers_eq, ← h.stage.answer?_eq hmove,
      Option.toList_map]

/-- A listener of the name makes a move. -/
theorem make_aside (hmove : move.Aside pairing n) :
    ∃ larger, (scene.make time move).Mirrors n larger bare := by
  obtain ⟨larger, hext, hstage, hopened⟩ := h.stage.aside time hmove
  obtain ⟨hread, hanswer⟩ := hmove.silent scene.stage time
  refine ⟨larger, ?_, ?_, fun {e x} htwins => ?_, ?_⟩
  · rw [stage_make]
    exact hstage
  · rw [opened_make, ← List.append_nil bare.opened]
    exact (h.opened.listeners_mono hext).append hopened
  · rcases hext.of_twins htwins with hold | ⟨hnew, hnew'⟩
    · rw [readFrom_make, h.readFrom_eq hold, hread hold]
      exact List.append_nil _
    · rw [readFrom_make_of_not_has hnew, readFrom_of_not_has hnew']
  · rw [answers_make, hanswer, List.map_append, h.answers_eq]
    exact List.append_nil _

/-! #### Who is meant -/

theorem listener? (hname : name ≠ n) (index : Nat) :
    Option.Rel (Listener.Twins pairing n) (scene.listener? name index)
      (bare.listener? name index) := by
  refine Beside.getElem? (h.opened.filter fun _ _ htwins => by rw [htwins.name_eq]) ?_ index
  intro listener hm hstray
  have hnamed : listener.name = name := by simpa using (List.mem_filter.1 hm).2
  exact hname (hnamed.symm.trans hstray.name_eq)

theorem isStray_of_listener? {listener : Listener} {index : Nat}
    (hl : scene.listener? n index = some listener) : listener.IsStray pairing n := by
  obtain ⟨hm, hnamed⟩ := List.mem_filter.1 (List.mem_of_getElem? hl)
  rcases h.opened.of_mem hm with hstray | ⟨_, _, htwins⟩
  · exact hstray
  · exact absurd (by simpa using hnamed) htwins.name_ne

theorem endpoint? {receiver : Receiver} (hother : ∀ index, receiver ≠ .listener n index) :
    Option.Rel pairing.twins (scene.endpoint? receiver) (bare.endpoint? receiver) := by
  cases receiver with
  | session id => exact rel_map (h.stage.session id) fun _ _ htwins => htwins.endpoint
  | listener name index =>
    have hname : name ≠ n := fun heq => hother index (heq ▸ rfl)
    exact rel_map (h.listener? hname index) fun _ _ htwins => htwins.endpoint

/-- **Everybody else accepts and reads the same.** -/
theorem received_eq {receiver : Receiver} (hother : ∀ index, receiver ≠ .listener n index) :
    scene.accepted receiver = bare.accepted receiver ∧
      scene.read receiver = bare.read receiver := by
  have hendpoint := h.endpoint? hother
  unfold Scene.accepted Scene.read
  generalize scene.endpoint? receiver = endpoint? at hendpoint ⊢
  generalize bare.endpoint? receiver = endpoint?' at hendpoint ⊢
  cases hendpoint with
  | none => exact ⟨rfl, rfl⟩
  | @some e x htwins =>
    refine ⟨?_, h.readFrom_eq htwins⟩
    rw [Option.elim_some, Option.elim_some, accepted_eq, accepted_eq, h.readFrom_eq htwins,
      h.stage.store.endpoint_eq htwins]

end Scene.Mirrors

/-! ### Cues -/

/-- Whether it is a listener of the name that does this. -/
def Cue.isListener (n : Name) : Cue → Bool
  | .openListener name | .letGo name _ | .read (.listener name _) => name = n
  | _ => false

/-- What everybody but the listeners of the name does. -/
def others (n : Name) (cues : List (Timestamp × Cue)) : List (Timestamp × Cue) :=
  cues.filter fun cue => !cue.2.isListener n

theorem others_concat_of_listener {cue : Timestamp × Cue} (h : cue.2.isListener n = true)
    (cues : List (Timestamp × Cue)) : others n (cues ++ [cue]) = others n cues := by
  simp [others, List.filter_append, h]

theorem others_concat_of_other {cue : Timestamp × Cue} (h : cue.2.isListener n = false)
    (cues : List (Timestamp × Cue)) : others n (cues ++ [cue]) = others n cues ++ [cue] := by
  simp [others, List.filter_append, h]

namespace Scene.Mirrors

variable {scene bare : Scene} {move : Move} {cue : Cue} (h : scene.Mirrors n pairing bare)
include h

/-- A cue for anybody else stands for moves that do the same. -/
theorem move? (hother : cue.isListener n = false)
    (hsubmit : ∀ message, cue = .submit message → message.sender ≠ n) :
    Option.Rel (Move.Twins pairing n) (scene.move? cue) (bare.move? cue) := by
  cases cue with
  | submit message => exact .some (.submit (hsubmit message rfl))
  | openListener name => exact .some (.openListener (of_decide_eq_false hother))
  | letGo name index =>
    exact rel_map (h.listener? (of_decide_eq_false hother) index) fun _ _ htwins => .letGo htwins
  | openSession => exact .some .openSession
  | arrive id arrival => exact .some (.arrive id arrival)
  | endInput id => exact .some (.endInput id)
  | turn id => exact .some (.turn id)
  | read receiver =>
    have hreceiver : ∀ index, receiver ≠ .listener n index := by
      rintro index rfl
      exact of_decide_eq_false hother rfl
    exact rel_map (h.endpoint? hreceiver) fun _ _ htwins => .read htwins
  | dropOutbound id => exact .some (.dropOutbound id)
  | shutDown => exact .some .shutDown

/-- A cue for a listener of the name stands for a move of its own, or for none. -/
theorem aside_of_move? (hlistener : cue.isListener n = true) (hm : scene.move? cue = some move) :
    move.Aside pairing n := by
  cases cue with
  | openListener name =>
    obtain rfl : name = n := of_decide_eq_true hlistener
    cases hm
    exact .openListener
  | letGo name index =>
    obtain rfl : name = n := of_decide_eq_true hlistener
    obtain ⟨listener, hl, rfl⟩ := Option.map_eq_some_iff.1 hm
    exact .letGo (h.isStray_of_listener? hl)
  | read receiver =>
    cases receiver with
    | session id => cases hlistener
    | listener name index =>
      obtain rfl : name = n := of_decide_eq_true hlistener
      obtain ⟨e, he, rfl⟩ := Option.map_eq_some_iff.1 hm
      obtain ⟨listener, hl, rfl⟩ := Option.map_eq_some_iff.1 he
      exact .read (h.isStray_of_listener? hl).endpoint
  | _ => cases hlistener

/-- Everybody else gets a cue. -/
theorem step (hother : cue.isListener n = false)
    (hsubmit : ∀ message, cue = .submit message → message.sender ≠ n)
    (hbefore : scene.stage.Unclaimed n)
    (hafter : (scene.step time cue).stage.Unclaimed n ∨ (bare.step time cue).stage.Unclaimed n) :
    ∃ larger, (scene.step time cue).Mirrors n larger (bare.step time cue) := by
  have hmove := h.move? hother hsubmit
  cases hm : scene.move? cue with
  | none =>
    rw [hm] at hmove
    cases hm' : bare.move? cue with
    | none =>
      rw [step_of_none hm, step_of_none hm']
      exact ⟨pairing, h⟩
    | some move' =>
      rw [hm'] at hmove
      cases hmove
  | some move =>
    rw [hm] at hmove
    cases hm' : bare.move? cue with
    | none =>
      rw [hm'] at hmove
      cases hmove
    | some move' =>
      rw [hm'] at hmove
      rw [step_of_some hm, step_of_some hm'] at hafter ⊢
      cases hmove with
      | some hmove => exact h.make hmove hbefore hafter

/-- A listener of the name gets a cue. -/
theorem step_aside (hlistener : cue.isListener n = true) :
    ∃ larger, (scene.step time cue).Mirrors n larger bare := by
  cases hm : scene.move? cue with
  | none =>
    rw [step_of_none hm]
    exact ⟨pairing, h⟩
  | some move =>
    rw [step_of_some hm]
    exact h.make_aside (h.aside_of_move? hlistener hm)

end Scene.Mirrors

/-- **Whatever the listeners of a name do, the run mirrors the one without them**, as long as no
session goes by the name in one of the two. -/
theorem Scene.exists_mirrors (settings : HubSettings) (cues : List (Timestamp × Cue))
    (hsubmit : ∀ time message, (time, .submit message) ∈ others n cues → message.sender ≠ n)
    (hunclaimed : ∀ before, before <+: cues →
      ((Scene.new settings).run before).stage.Unclaimed n ∨
        ((Scene.new settings).run (others n before)).stage.Unclaimed n) :
    ∃ pairing, ((Scene.new settings).run cues).Mirrors n pairing
      ((Scene.new settings).run (others n cues)) := by
  induction cues using List.reverseRecOn with
  | nil => exact ⟨.empty, .new settings n⟩
  | append_singleton cues cue ih =>
    have hprefix : cues <+: cues ++ [cue] := List.prefix_append _ _
    have hothers : others n cues <+: others n (cues ++ [cue]) := hprefix.filter _
    obtain ⟨pairing, h⟩ := ih (fun time message hm => hsubmit time message (hothers.subset hm))
      fun before hbefore => hunclaimed before (hbefore.trans hprefix)
    have hbefore : ((Scene.new settings).run cues).stage.Unclaimed n :=
      (hunclaimed cues hprefix).elim id h.stage.unclaimed_iff.2
    have hafter := hunclaimed (cues ++ [cue]) (List.prefix_refl _)
    cases hcue : cue.2.isListener n with
    | true =>
      rw [others_concat_of_listener hcue, run_append]
      exact h.step_aside hcue
    | false =>
      rw [others_concat_of_other hcue, run_append, run_append] at hafter ⊢
      refine h.step hcue (fun message heq => hsubmit cue.1 message ?_) hbefore hafter
      rw [others_concat_of_other hcue, ← heq]
      exact List.mem_append_right _ List.mem_cons_self

/-- **A listener affects nobody else.** Let only listeners use a name in a run: nobody submits under
it and no session ever goes by it. At every step of the run, compare it with any other run in which
everybody but the listeners of the name has got the same cues at the same times, whatever these
listeners do in either run. Every other receiver has accepted and read the same messages, the same
sessions have ended with the same outcomes, the submits were answered alike but for the name in the
reports, and the same other names are held. -/
theorem listener_isolation (settings : HubSettings) (n : Name) (cues : List (Timestamp × Cue))
    (hsubmit : ∀ time message, (time, .submit message) ∈ cues → message.sender ≠ n)
    (hgreet : ∀ before, before <+: cues → ((Scene.new settings).run before).stage.Unclaimed n) :
    ∀ before cues', before <+: cues → others n before = others n cues' →
      let scene := (Scene.new settings).run before
      let scene' := (Scene.new settings).run cues'
      (∀ receiver, (∀ index, receiver ≠ .listener n index) →
        scene.accepted receiver = scene'.accepted receiver ∧
          scene.read receiver = scene'.read receiver) ∧
      (∀ id, scene.stage.hub.outcome? id = scene'.stage.hub.outcome? id) ∧
      scene.answers.map (Except.map (Report.without n)) =
        scene'.answers.map (Except.map (Report.without n)) ∧
      scene.stage.hub.names.filter (· ≠ n) = scene'.stage.hub.names.filter (· ≠ n) := by
  intro before cues' hbefore hsame scene scene'
  have hothers : ∀ time message, (time, .submit message) ∈ others n before → message.sender ≠ n :=
    fun time message hm => hsubmit time message (hbefore.subset (List.mem_of_mem_filter hm))
  obtain ⟨pairing, h⟩ := Scene.exists_mirrors settings before hothers
    fun early hearly => .inl (hgreet early (hearly.trans hbefore))
  -- no session goes by the name without the listeners, hence none does in the other run
  have hbare : ∀ early, early <+: cues' →
      ((Scene.new settings).run (others n early)).stage.Unclaimed n := by
    intro early hearly
    have hprefix : others n early <+: others n before := hsame ▸ hearly.filter _
    obtain ⟨first, hfirst, heq⟩ := List.prefix_filter_iff.1 hprefix
    obtain ⟨_, hmirrors⟩ := Scene.exists_mirrors settings first
      (fun time message hm => hothers time message ((hfirst.filter _).subset hm))
      fun earlier hearlier => .inl (hgreet earlier (hearlier.trans (hfirst.trans hbefore)))
    rw [heq]
    exact hmirrors.stage.unclaimed_iff.1 (hgreet first (hfirst.trans hbefore))
  obtain ⟨pairing', h'⟩ := Scene.exists_mirrors settings cues' (hsame ▸ hothers)
    fun early hearly => .inr (hbare early hearly)
  rw [← hsame] at h'
  refine ⟨fun receiver hother => ?_, fun id => ?_, ?_, ?_⟩
  · obtain ⟨haccepted, hread⟩ := h.received_eq hother
    obtain ⟨haccepted', hread'⟩ := h'.received_eq hother
    exact ⟨haccepted.trans haccepted'.symm, hread.trans hread'.symm⟩
  · exact (h.stage.outcome?_eq id).trans (h'.stage.outcome?_eq id).symm
  · exact h.answers_eq.trans h'.answers_eq.symm
  · exact h.stage.store.names_eq.trans h'.stage.store.names_eq.symm

namespace Sample

def carol : Name := ⟨"carol", by decide, by decide⟩

/-- Alice and Carol listen, Bob greets, Carol reads and speaks; Alice reads too late and listens
again. -/
def heedless : List (Timestamp × Cue) :=
  [(⟨0⟩, .openListener alice), (⟨1⟩, .openListener carol), (⟨2⟩, .openSession),
    (⟨3⟩, .arrive ⟨0⟩ (.message ⟨bob, .empty⟩)), (⟨4⟩, .turn ⟨0⟩),
    (⟨5⟩, .read (.listener carol 0)), (⟨6⟩, .submit ⟨carol, .empty⟩),
    (⟨7⟩, .read (.listener alice 0)), (⟨8⟩, .openListener alice)]

/-- The same, but Alice reads in time. -/
def heedful : List (Timestamp × Cue) :=
  [(⟨0⟩, .openListener alice), (⟨1⟩, .openListener carol), (⟨2⟩, .openSession),
    (⟨3⟩, .arrive ⟨0⟩ (.message ⟨bob, .empty⟩)), (⟨4⟩, .turn ⟨0⟩),
    (⟨5⟩, .read (.listener alice 0)), (⟨5⟩, .read (.listener carol 0)),
    (⟨6⟩, .submit ⟨carol, .empty⟩)]

end Sample

/-- With room for one message, Alice is dropped over Carol's message if she has not read Bob's, and
that shows in the report; Carol and Bob get the same. -/
theorem listener_isolation_dropped :
    let heedless := (Scene.new { capacity := 1 }).run Sample.heedless
    let heedful := (Scene.new { capacity := 1 }).run Sample.heedful
    heedless.answers = [.ok ⟨[Sample.bob], [Sample.alice]⟩] ∧
      heedful.answers = [.ok ⟨[Sample.alice, Sample.bob], []⟩] ∧
      heedless.read (.listener Sample.carol 0) = heedful.read (.listener Sample.carol 0) ∧
      heedless.accepted (.session ⟨0⟩) = heedful.accepted (.session ⟨0⟩) := by
  intro heedless heedful
  have hsubmit : ∀ time message, (time, Cue.submit message) ∈ Sample.heedless →
      message.sender ≠ Sample.alice := by
    intro time message hm
    simp only [Sample.heedless, List.mem_cons, List.not_mem_nil, Prod.mk.injEq, reduceCtorEq,
      Cue.submit.injEq, and_false, or_self, or_false, false_or] at hm
    obtain ⟨_, rfl⟩ := hm
    decide
  have hsessions : ∀ count ≤ Sample.heedless.length, ∀ session ∈
      ((Scene.new { capacity := 1 }).run (Sample.heedless.take count)).stage.hub.sessions.toList,
      session.state ≠ .active Sample.alice := by
    decide
  have hgreet : ∀ before, before <+: Sample.heedless →
      ((Scene.new { capacity := 1 }).run before).stage.Unclaimed Sample.alice := by
    intro before hbefore id session hs
    rw [List.prefix_iff_eq_take.1 hbefore] at hs
    exact hsessions _ hbefore.length_le session (Stage.mem_sessions hs)
  obtain ⟨hreceived, _⟩ := listener_isolation { capacity := 1 } Sample.alice Sample.heedless hsubmit
    hgreet Sample.heedless Sample.heedful (List.prefix_refl _) (by decide)
  refine ⟨by decide, by decide, (hreceived _ (by simp [Sample.carol, Sample.alice])).2, ?_⟩
  exact (hreceived _ (by simp)).1

end BroadcastChat
