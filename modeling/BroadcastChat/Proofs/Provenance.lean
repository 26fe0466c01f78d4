/-
# Where names and bodies come from

A hub makes up no texts. Every name that is bound, every sender and every body
in a queue came in with a move: it was submitted, it came from a session's
client, or a listener was opened under it. So whatever holds of all that comes
in holds of all that a hub keeps (`Stage.drawn_run`).

A vocabulary says which names and bodies there may be. A program that binds and
delivers nothing else (`Vocabulary.Allows`) leaves the store within the
vocabulary, and each move runs such a program.

Key definitions: `Vocabulary`, `Vocabulary.Allows`, `Store.Drawn`,
`Stage.Drawn`, `Move.Drawn`.
Key theorems: `Store.Drawn.perform`, `Store.Drawn.run`, `Stage.Drawn.step`,
`Stage.drawn_run`.
-/
import BroadcastChat.Proofs.Inflow
import BroadcastChat.Proofs.Speech

namespace BroadcastChat

/-- Which names and bodies there may be. -/
structure Vocabulary where
  names : Name → Prop
  bodies : Body → Prop

namespace Vocabulary

/-- Whether a message is made of what there may be. -/
def Says (vocabulary : Vocabulary) (message : Message) : Prop :=
  vocabulary.names message.sender ∧ vocabulary.bodies message.body

/-- Whether an action binds and delivers only what there may be. -/
def Allows (vocabulary : Vocabulary) : Action → Prop
  | .register name _ => vocabulary.names name
  | .deliver _ delivery => vocabulary.Says delivery.message
  | _ => True

end Vocabulary

/-- All that a store keeps is within the vocabulary: who is bound, what is queued, and what has
arrived and is not yet read. -/
structure Store.Drawn (vocabulary : Vocabulary) (store : Store) : Prop where
  bound : ∀ {n e}, store.Binds n e → vocabulary.names n
  queued : ∀ {e d}, d ∈ (store.endpoint e).unread → vocabulary.Says d.message
  pending : ∀ {i m}, .message m ∈ (store.inbound i).arrivals → vocabulary.Says m

variable {vocabulary : Vocabulary} {time : Timestamp} {store : Store}

/-! ### Actions -/

namespace Vocabulary

theorem allows_of_kind {action : Action} (hregister : action.kind ≠ .register)
    (hdeliver : action.kind ≠ .deliver) : vocabulary.Allows action := by
  cases action with
  | register => exact absurd rfl hregister
  | deliver => exact absurd rfl hdeliver
  | _ => trivial

theorem says_of_accepted {action : Action} {answer : action.Answer} {e : EndpointId} {d : Delivery}
    (h : vocabulary.Allows action) (hd : d ∈ accepted [⟨action, answer⟩] e) :
    vocabulary.Says d.message := by
  obtain ⟨event, hevent, haccepted⟩ := List.mem_filterMap.1 hd
  cases List.mem_singleton.1 hevent
  cases action with
  | deliver endpoint delivery =>
    cases answer with
    | ok u =>
      simp only [Event.accepted?, Option.ite_none_right_eq_some] at haccepted
      obtain ⟨_, heq⟩ := haccepted
      cases heq
      exact h
    | error refusal => cases haccepted
  | _ => cases haccepted

end Vocabulary

theorem Store.mem_arrivals_updateInbound {i j : InboundId} {f : Inbound → Inbound}
    {arrival : Arrival} (h : arrival ∈ ((store.updateInbound i f).inbound j).arrivals) :
    arrival ∈ (store.inbound j).arrivals ∨ arrival ∈ (f (store.inbound i)).arrivals := by
  by_cases hj : j = i
  · subst hj
    unfold inbound updateInbound at h
    rw [Array.getElem?_modify, if_pos rfl] at h
    unfold inbound
    cases hstream : store.inbounds[j.index]? with
    | none =>
      rw [hstream] at h
      cases h
    | some stream =>
      rw [hstream] at h
      exact .inr h
  · rw [inbound_updateInbound_of_ne f hj] at h
    exact .inl h

theorem Inbound.mem_of_read {inbound : Inbound} {arrival : Arrival}
    (h : arrival ∈ inbound.read.2.arrivals) : arrival ∈ inbound.arrivals := by
  unfold read at h
  split at h
  · rename_i first rest hcons
    rw [hcons]
    exact List.mem_cons_of_mem first h
  · exact h

namespace Store.Drawn

theorem empty : Store.empty.Drawn vocabulary where
  bound h := by cases h
  queued h := by cases h
  pending h := by cases h

/-- What a change of one inbound stream adds to it must be within the vocabulary. -/
theorem updateInbound (h : store.Drawn vocabulary) {i : InboundId} {f : Inbound → Inbound}
    (hf : ∀ m, .message m ∈ (f (store.inbound i)).arrivals → vocabulary.Says m) :
    (store.updateInbound i f).Drawn vocabulary where
  bound hb := h.bound hb
  queued hd := h.queued hd
  pending hm := by
    rcases mem_arrivals_updateInbound hm with hold | hnew
    · exact h.pending hold
    · exact hf _ hnew

/-- **Every action that is allowed leaves the store within the vocabulary.** -/
theorem perform (h : store.Drawn vocabulary) {action : Action} (ha : vocabulary.Allows action) :
    (action.perform time store).2.Drawn vocabulary where
  bound hb := by
    rcases Action.binds_of_perform hb with hold | rfl
    · exact h.bound hold
    · exact ha
  queued hd := by
    rw [Action.unread_perform, List.mem_append] at hd
    rcases hd with hold | hnew
    · exact h.queued hold
    · exact Vocabulary.says_of_accepted ha hnew
  pending {i m} hm := by
    by_cases hread : action = .receive i
    · subst hread
      rcases mem_arrivals_updateInbound hm with hold | hleft
      · exact h.pending hold
      · exact h.pending (Inbound.mem_of_read hleft)
    · rw [Action.inbound_perform hread] at hm
      exact h.pending hm

theorem run {α : Type} {p : Program α} (h : store.Drawn vocabulary)
    (hp : p.Only vocabulary.Allows) : (p.run time store).2.Drawn vocabulary := by
  induction p generalizing store with
  | done value => exact h
  | step action next ih => exact ih _ (h.perform hp.1) (hp.2 _)

end Store.Drawn

/-! ### Programs -/

namespace Vocabulary

open Program

variable {α : Type} {p : Program α} {message : Message} {name : Name}

theorem only_of_within {kinds : List Action.Kind} (h : p.Within kinds)
    (hregister : .register ∉ kinds) (hdeliver : .deliver ∉ kinds) : p.Only vocabulary.Allows :=
  h.only fun _ hkind =>
    allows_of_kind (fun heq => hregister (heq ▸ hkind)) (fun heq => hdeliver (heq ▸ hkind))

theorem only_handOut {delivery : Delivery} (h : vocabulary.Says delivery.message) (report : Report)
    (recipients : List Binding) :
    (handOut delivery report recipients).Only vocabulary.Allows := by
  induction recipients generalizing report with
  | nil => exact only_pure
  | cons b rest ih =>
    obtain ⟨n, e⟩ := b
    refine only_act_bind h fun answer => ?_
    cases answer with
    | ok u => exact ih _
    | error refusal => exact only_act_bind trivial fun _ => only_act_bind trivial fun _ => ih _

theorem only_broadcast (h : vocabulary.Says message) :
    (broadcast message).Only vocabulary.Allows := by
  refine only_act_bind trivial fun stamp => only_act_bind trivial fun recipients => ?_
  exact only_handOut h .empty recipients

theorem only_submit (h : vocabulary.Says message) : (submit message).Only vocabulary.Allows := by
  refine only_act_bind trivial fun holder => ?_
  cases holder with
  | none => exact only_pure
  | some endpoint =>
    refine only_act_bind trivial fun closed => ?_
    cases closed with
    | true => exact only_act_bind trivial fun _ => only_pure
    | false => exact Only.bind (only_broadcast h) fun _ => only_pure

theorem only_takeOver (h : vocabulary.names name) (endpoint : EndpointId) :
    (takeOver name endpoint).Only vocabulary.Allows := by
  refine only_act_bind h fun superseded => ?_
  cases superseded with
  | none => exact only_pure
  | some previous => exact only_act_bind trivial fun _ => only_pure

theorem only_openListener (h : vocabulary.names name) (capacity : Nat) :
    (openListener capacity name).Only vocabulary.Allows := by
  have hclosed : (closedListener name).Only vocabulary.Allows :=
    only_of_within (within_closedListener name) (by decide) (by decide)
  have hsubscribe : (subscribe capacity name).Only vocabulary.Allows :=
    only_act_bind trivial fun endpoint => (only_takeOver h endpoint).bind fun _ => only_pure
  refine only_act_bind trivial fun stopped => ?_
  cases stopped with
  | true => exact hclosed
  | false =>
    refine hsubscribe.bind fun listener => only_act_bind trivial fun stopped => ?_
    cases stopped with
    | true =>
      have hletGo : (letGo listener).Only vocabulary.Allows :=
        only_of_within (within_letGo listener) (by decide) (by decide)
      exact hletGo.bind fun _ => hclosed
    | false => exact only_pure

/-- What a session does about something that it found, if it and its name are within the
vocabulary. -/
theorem only_handle {policy : GreetingPolicy} {session : Session} {event : Session.Event}
    (hname : ∀ name, session.state = .active name → vocabulary.names name)
    (hevent : ∀ message, event = .message message → vocabulary.Says message) :
    (session.handle policy event).Only vocabulary.Allows := by
  refine Only.bind ?_ fun state =>
    only_of_within (Session.within_wrapUp session state) (by decide) (by decide)
  unfold Session.onEvent
  split
  · rename_i hello hstate
    have hsaid := hevent hello rfl
    refine (only_takeOver hsaid.1 session.endpoint).bind fun _ => ?_
    cases policy with
    | broadcast => exact (only_broadcast hsaid).bind fun _ => only_pure
    | registerOnly => exact only_pure
  · exact only_pure
  · rename_i name message hstate
    have hsaid : vocabulary.Says (message.sentAs name) :=
      ⟨hname name hstate, (hevent message rfl).2⟩
    exact (only_broadcast hsaid).bind fun _ => only_pure
  · exact only_pure
  · exact only_pure

end Vocabulary

/-! ### Moves -/

/-- A move brings in only what is within the vocabulary. -/
def Move.Drawn (vocabulary : Vocabulary) : Move → Prop
  | .submit message | .arrive _ (.message message) => vocabulary.Says message
  | .openListener name => vocabulary.names name
  | _ => True

/-- All that a hub keeps is within the vocabulary, also the names that its sessions speak under. -/
structure Stage.Drawn (vocabulary : Vocabulary) (stage : Stage) : Prop where
  store : stage.hub.store.Drawn vocabulary
  active : ∀ {id session name}, stage.hub.session? id = some session →
    session.state = .active name → vocabulary.names name

theorem Session.mem_arrivals_of_found {session : Session} {message : Message}
    (h : session.found? store = some (.message message)) :
    .message message ∈ (store.inbound session.inbound).arrivals := by
  unfold found? at h
  split at h
  · cases h
  · split at h
    · cases h
    · generalize store.inbound session.inbound = inbound at h ⊢
      obtain ⟨arrivals, isOpen⟩ := inbound
      cases arrivals with
      | nil => cases isOpen <;> cases h
      | cons arrival rest =>
        cases arrival with
        | message m =>
          cases h
          exact List.mem_cons_self
        | cancelled => cases h
        | failed reason => cases h

namespace Stage.Drawn

variable {stage : Stage} {log : List Event}

theorem new (settings : HubSettings) : (Stage.new settings).Drawn vocabulary where
  store := .empty
  active h := by cases h

section

variable (h : stage.Drawn vocabulary)
include h

theorem store_perform (time : Timestamp) {α : Type} {p : Program α}
    (hp : p.Only vocabulary.Allows) :
    (stage.hub.perform time p).2.store.Drawn vocabulary :=
  h.store.run hp

/-- What a session finds to handle came from its client. -/
theorem says_of_heard {id : SessionId} {message : Message}
    (hheard : stage.hub.heard? time id = some (.message message)) : vocabulary.Says message := by
  obtain ⟨session, hsession, hover, hnext⟩ := Hub.session_of_heard? hheard
  rw [Session.fst_run_nextEvent] at hnext
  exact h.store.pending (Session.mem_arrivals_of_found hnext)

theorem store_turn (id : SessionId) :
    (stage.step time (.turn id)).hub.store.Drawn vocabulary := by
  cases hheard : stage.hub.heard? time id with
  | none =>
    simp only [Stage.step, Hub.turn_of_not_heard? hheard, Option.getD_none]
    exact h.store
  | some event =>
    obtain ⟨session, hsession, hover, hnext⟩ := Hub.session_of_heard? hheard
    simp only [Stage.step, Hub.turn_of_heard? hsession hover hnext, Option.getD_some]
    have hlook : session.nextEvent.Only vocabulary.Allows :=
      Vocabulary.only_of_within session.within_nextEvent (by decide) (by decide)
    refine (h.store.run hlook).run (Vocabulary.only_handle (fun name hs => h.active hsession hs) ?_)
    rintro message rfl
    exact h.says_of_heard hheard

theorem store_arrive {id : SessionId} {arrival : Arrival}
    (hmove : (Move.arrive id arrival).Drawn vocabulary) :
    (stage.hub.send id arrival).2.store.Drawn vocabulary := by
  unfold Hub.send
  split
  · exact h.store
  · split
    · split
      · exact h.store
      · refine h.store.updateInbound fun m hm => ?_
        rcases List.mem_append.1 hm with hold | hnew
        · exact h.store.pending hold
        · cases List.mem_singleton.1 hnew
          exact hmove
    · exact h.store

theorem store_endInput (id : SessionId) :
    (stage.hub.endInput id).2.store.Drawn vocabulary := by
  unfold Hub.endInput
  split
  · exact h.store
  · exact h.store.updateInbound fun m hm => h.store.pending hm

theorem store_read (id : EndpointId) : (stage.hub.read id).2.store.Drawn vocabulary where
  bound hb := h.store.bound hb
  queued {e d} hd := by
    refine h.store.queued (e := e) ?_
    rw [← Store.unread_read stage.hub.store id e]
    exact List.mem_append_right _ hd
  pending hm := h.store.pending hm

/-- A new session starts with an empty stream. -/
theorem store_newInbound : stage.hub.store.newInbound.2.Drawn vocabulary where
  bound hb := h.store.bound hb
  queued hd := h.store.queued hd
  pending hm := by
    rw [Store.arrivals_newInbound] at hm
    exact h.store.pending hm

/-- What a move that brings in nothing else leaves in the store. -/
theorem store_step {move : Move} (hmove : move.Drawn vocabulary) :
    (stage.step time move).hub.store.Drawn vocabulary := by
  cases move with
  | submit message =>
    exact h.store_perform time (p := Program.submit message) (Vocabulary.only_submit hmove)
  | openListener name =>
    exact h.store_perform time (p := Program.openListener _ name)
      (Vocabulary.only_openListener hmove _)
  | letGo listener =>
    simp only [Stage.step]
    split
    · exact h.store_perform time
        (Vocabulary.only_of_within (Program.within_letGo listener) (by decide) (by decide))
    · exact h.store
  | openSession =>
    change ((Session.start _ stage.hub.store.newInbound.1).run time
      stage.hub.store.newInbound.2).2.Drawn vocabulary
    exact h.store_newInbound.run
      (Vocabulary.only_of_within (Session.within_start _ _) (by decide) (by decide))
  | arrive id arrival => exact h.store_arrive hmove
  | endInput id => exact h.store_endInput id
  | turn id => exact h.store_turn id
  | read endpoint => exact h.store_read endpoint
  | dropOutbound id =>
    simp only [Stage.step]
    split
    · exact h.store
    · rename_i session hsession
      exact h.store_perform time (p := Program.drop session.endpoint) ⟨trivial, fun _ => trivial⟩
  | shutDown =>
    exact h.store_perform time
      (Vocabulary.only_of_within Program.within_shutDown (by decide) (by decide))

/-- A session speaks under the name of its client's first message. -/
theorem active_step (hsound : stage.Sound log) {move : Move} {id : SessionId} {session : Session}
    {name : Name} (hsession : (stage.step time move).hub.session? id = some session)
    (hstate : session.state = .active name) : vocabulary.names name := by
  cases hbefore : stage.hub.session? id with
  | none =>
    have hnew := awaiting_of_new hbefore hsession
    rw [hstate] at hnew
    cases hnew
  | some earlier =>
    by_cases hturn : move = .turn id
    · subst hturn
      cases hheard : stage.hub.heard? time id with
      | none =>
        simp only [Stage.step, Hub.turn_of_not_heard? hheard, Option.getD_none] at hsession
        exact h.active hsession hstate
      | some event =>
        obtain ⟨found, hfound, hover, hnext⟩ := Hub.session_of_heard? hheard
        have hafter := (Moment.turn_of_event hfound hover hnext).2.2
        cases hsession.symm.trans hafter
        rw [Session.run_handle (hsound.rests found (mem_sessions hfound)) hover] at hstate
        -- a name is the first message's, or was there before
        cases hs : found.state with
        | awaitingHello =>
          rw [hs] at hstate
          cases event with
          | message hello =>
            cases hstate
            exact (h.says_of_heard hheard).1
          | ending ending => cases hstate
        | active held =>
          rw [hs] at hstate
          cases event with
          | message message =>
            cases hstate
            exact h.active hfound hs
          | ending ending => cases hstate
        | closing held outcome =>
          rw [hs] at hstate
          cases hstate
        | closed outcome =>
          rw [hs] at hstate
          cases hstate
    · rw [session_step_of_ne hbefore time hturn] at hsession
      cases hsession
      exact h.active hbefore hstate

/-- **A hub stays within the vocabulary in every move that brings in nothing else.** -/
theorem step (hsound : stage.Sound log) {move : Move} (hmove : move.Drawn vocabulary) :
    (stage.step time move).Drawn vocabulary where
  store := h.store_step hmove
  active hsession hstate := h.active_step hsound hsession hstate

theorem run (hsound : stage.Sound log) {moves : List (Timestamp × Move)}
    (hmoves : ∀ move ∈ moves, move.2.Drawn vocabulary) : (stage.run moves).Drawn vocabulary := by
  induction moves generalizing stage log with
  | nil => exact h
  | cons move rest ih =>
    refine ih (h.step hsound (hmoves move List.mem_cons_self)) (hsound.step move.1 move.2) ?_
    exact fun later hlater => hmoves later (List.mem_cons_of_mem _ hlater)

end

end Stage.Drawn

/-- **A hub keeps only what came in.** -/
theorem Stage.drawn_run (settings : HubSettings) {moves : List (Timestamp × Move)}
    (hmoves : ∀ move ∈ moves, move.2.Drawn vocabulary) :
    ((Stage.new settings).run moves).Drawn vocabulary :=
  (Drawn.new settings).run (sound_new settings) hmoves

end BroadcastChat
