/-
# The hub's books

Whoever works on the hub keeps notes: which endpoints it made and has not yet
registered, which names it holds and with which endpoint, which endpoints it
still has to close, and what it has seen on the way. `Books` ties the notes of
everybody together to the store and the log of the past. It is the invariant
behind every statement on who is bound and who is closed:

* an endpoint that is open is bound, or somebody made it and has not
  registered it yet, or somebody owes its closure;
* an endpoint that is bound was registered last under its name, is not shut,
  and is held by somebody;
* no endpoint is registered twice, and each has at most one owner.

The notes are a multiset, so that a task's own notes and those of all others
are simply added. `Proofs/Bookkeeping.lean` says what each action does to the
books, and `Proofs/Conduct.lean` which notes a task may write when.

Key definitions: `Note`, `Note.Sound`, `Books`.
Key theorems: `Books.registered_unique`, `Books.registered_once`,
`Books.binds_unique`, `Books.open_of_binds`, `Books.owned_ne`, `Books.add`,
`Books.forget`, `Books.pay`, `Books.retire`, `Books.settle`.
-/
import Mathlib.Algebra.Order.Group.Multiset
import BroadcastChat.Proofs.Trace

namespace BroadcastChat

/-- A line in the notes of a task. -/
inductive Note where
  /-- It made this endpoint and has neither registered nor closed it. -/
  | made (endpoint : EndpointId)
  /-- It registered the endpoint under the name and has not let go of it. -/
  | held (name : Name) (endpoint : EndpointId)
  /-- The same, and it saw afterwards that the hub had not stopped. -/
  | settled (name : Name) (endpoint : EndpointId)
  /-- Its endpoint holds no name and never will again. -/
  | retired (endpoint : EndpointId)
  /-- It learned from the registry that the endpoint was registered under the name. -/
  | known (name : Name) (endpoint : EndpointId)
  /-- The endpoint did not take a delivery. -/
  | refused (name : Name) (endpoint : EndpointId)
  /-- It saw that the endpoint was closed. -/
  | seenClosed (name : Name) (endpoint : EndpointId)
  /-- It must close this endpoint. -/
  | owes (endpoint : EndpointId)
  /-- It asks the registry on behalf of a sender without a session. -/
  | asking
  /-- It is about to let go of what it holds. -/
  | parting
  /-- It gave the stop signal and has yet to empty the registry. -/
  | halted
  /-- It emptied the registry. -/
  | swept
  deriving DecidableEq

namespace Note

/-- The endpoint that the note's writer owns. -/
def owned? : Note → Option EndpointId
  | .made endpoint | .held _ endpoint | .settled _ endpoint | .retired endpoint => some endpoint
  | _ => none

/-- The endpoint that the note says is free. -/
def unbound? : Note → Option EndpointId
  | .settled _ endpoint | .retired endpoint | .owes endpoint => some endpoint
  | _ => none

/-- Whether the note can be torn out without loss. -/
def Idle : Note → Prop
  | .made _ | .held _ _ | .settled _ _ | .owes _ | .halted => False
  | _ => True

/-- Whether the note is true. -/
def Sound (store : Store) (log : List Event) : Note → Prop
  | .made e => store.Has e ∧ (store.endpoint e).shut = false ∧ ∀ n, ¬Registered log n e
  | .held n e | .known n e | .refused n e => Registered log n e
  | .settled n e => Registered log n e ∧ (Swept log → ¬store.Binds n e)
  | .retired e => store.Has e ∧ ∀ n, ¬store.Binds n e
  | .seenClosed n e => Registered log n e ∧ store.Closed e
  | .owes e => (∃ n, Registered log n e) ∧ ∀ n, ¬store.Binds n e
  | .halted => store.stopped = true
  | .swept => Swept log
  | .asking | .parting => True

end Note

/-- Notes none of which matters any more. -/
def AllIdle (notes : Multiset Note) : Prop := ∀ note ∈ notes, note.Idle

theorem allIdle_zero : AllIdle 0 := by
  intro note hm
  exact absurd hm (Multiset.notMem_zero _)

theorem AllIdle.cons {note : Note} {notes : Multiset Note} (h : AllIdle notes)
    (hn : note.Idle) : AllIdle (note ::ₘ notes) := by
  intro other hm
  rcases Multiset.mem_cons.1 hm with rfl | hm
  · exact hn
  · exact h other hm

/-- The notes of everybody agree with the store and with what happened. -/
structure Books (store : Store) (log : List Event) (notes : Multiset Note) : Prop where
  sound : ∀ note ∈ notes, note.Sound store log
  owned_nodup : (notes.filterMap Note.owned?).Nodup
  registered_nodup : ((registrations log).map Prod.snd).Nodup
  has_registered : ∀ {n e}, Registered log n e → store.Has e
  last_of_binds : ∀ {n e}, store.Binds n e → lastHolder log n = some e
  held_of_binds : ∀ {n e}, store.Binds n e → .held n e ∈ notes ∨ .settled n e ∈ notes
  shut_of_binds : ∀ {n e}, store.Binds n e → (store.endpoint e).shut = false
  accounted : ∀ {e}, store.Has e → ¬store.Closed e →
    (∃ n, store.Binds n e) ∨ .made e ∈ notes ∨ .owes e ∈ notes
  stopped_of_swept : Swept log → store.stopped = true
  swept_of_stopped : store.stopped = true → Swept log ∨ .halted ∈ notes

theorem books_empty : Books .empty [] 0 where
  sound := by simp
  owned_nodup := by simp
  registered_nodup := List.nodup_nil
  has_registered h := by cases h
  last_of_binds h := by cases h
  held_of_binds h := by cases h
  shut_of_binds h := by cases h
  accounted h := absurd h (Nat.not_lt_zero _)
  stopped_of_swept h := by
    obtain ⟨_, h, _⟩ := h
    cases h
  swept_of_stopped h := by cases h

namespace Books

variable {store : Store} {log : List Event} {notes : Multiset Note}

/-! ### Reading the books -/

theorem registered_of_binds (h : Books store log notes) {n : Name} {e : EndpointId}
    (hb : store.Binds n e) : Registered log n e :=
  registered_of_lastHolder (h.last_of_binds hb)

theorem registered_unique (h : Books store log notes) {n n' : Name} {e : EndpointId}
    (hr : Registered log n e) (hr' : Registered log n' e) : n = n' :=
  congrArg Prod.fst (List.inj_on_of_nodup_map h.registered_nodup hr hr' rfl)

theorem binds_unique (h : Books store log notes) {n n' : Name} {e : EndpointId}
    (hb : store.Binds n e) (hb' : store.Binds n' e) : n = n' :=
  h.registered_unique (h.registered_of_binds hb) (h.registered_of_binds hb')

theorem registered_once {more : List Event} (h : Books store (log ++ more) notes) {n n' : Name}
    {e : EndpointId} (hr : Registered log n e) : ¬Registered more n' e := by
  intro hagain
  have hnodup := h.registered_nodup
  rw [registrations_append, List.map_append, List.nodup_append] at hnodup
  have hbefore : e ∈ (registrations log).map Prod.snd := List.mem_map_of_mem hr
  have hafter : e ∈ (registrations more).map Prod.snd := List.mem_map_of_mem hagain
  exact hnodup.2.2 e hbefore e hafter rfl

theorem not_binds_of_newer {more : List Event} (h : Books store (log ++ more) notes) {n : Name}
    {e x : EndpointId} (hr : Registered log n e) (hnew : Registered more n x) :
    ¬store.Binds n e := by
  intro hb
  have hlast := h.last_of_binds hb
  rw [lastHolder_append] at hlast
  cases hmore : lastHolder more n with
  | none => exact not_registered_of_lastHolder hmore x hnew
  | some y =>
    rw [hmore, Option.some_or] at hlast
    cases hlast
    exact h.registered_once hr (registered_of_lastHolder hmore)

theorem has_of_binds (h : Books store log notes) {n : Name} {e : EndpointId}
    (hb : store.Binds n e) : store.Has e :=
  h.has_registered (h.registered_of_binds hb)

/-- Who is bound is open unless its stream was dropped. -/
theorem open_of_binds (h : Books store log notes) {n : Name} {e : EndpointId}
    (hb : store.Binds n e) (hd : (store.endpoint e).dropped = false) : ¬store.Closed e := by
  rw [Store.Closed, Endpoint.isClosed, h.shut_of_binds hb, hd]
  simp

theorem has_owned (h : Books store log notes) {note : Note} (hn : note ∈ notes) {e : EndpointId}
    (he : note.owned? = some e) : store.Has e := by
  have hs := h.sound note hn
  cases note with
  | made x => cases he; exact hs.1
  | held n x => cases he; exact h.has_registered hs
  | settled n x => cases he; exact h.has_registered hs.1
  | retired x => cases he; exact hs.1
  | _ => cases he

/-- An endpoint has one owner, who has one note about it. -/
theorem owned_ne (h : Books store log notes) {note other : Note} {rest : Multiset Note}
    (hn : notes = note ::ₘ rest) (ho : other ∈ rest) {e x : EndpointId}
    (he : note.owned? = some e) (hx : other.owned? = some x) : x ≠ e := by
  rintro rfl
  have hd := h.owned_nodup
  rw [hn, Multiset.filterMap_cons_some _ _ _ he, Multiset.nodup_cons] at hd
  exact hd.1 ((Multiset.mem_filterMap _ _).2 ⟨other, ho, hx⟩)

theorem registered_of_mem_bindings (h : Books store log notes) {b : Binding}
    (hb : b ∈ store.registry.bindings) : Registered log b.1 b.2 :=
  h.registered_of_binds (Registry.mem_bindings_iff.1 hb)

/-! ### Writing without acting -/

theorem add (h : Books store log notes) {note : Note} (ho : note.owned? = none)
    (hs : note.Sound store log) : Books store log (note ::ₘ notes) where
  sound := by
    intro other hm
    rcases Multiset.mem_cons.1 hm with rfl | hm
    · exact hs
    · exact h.sound other hm
  owned_nodup := by
    rw [Multiset.filterMap_cons_none _ _ ho]
    exact h.owned_nodup
  registered_nodup := h.registered_nodup
  has_registered := h.has_registered
  last_of_binds := h.last_of_binds
  held_of_binds hb :=
    (h.held_of_binds hb).imp (Multiset.mem_cons_of_mem ·) (Multiset.mem_cons_of_mem ·)
  shut_of_binds := h.shut_of_binds
  accounted hh hc := by
    rcases h.accounted hh hc with hb | hm | ho
    · exact .inl hb
    · exact .inr (.inl (Multiset.mem_cons_of_mem hm))
    · exact .inr (.inr (Multiset.mem_cons_of_mem ho))
  stopped_of_swept := h.stopped_of_swept
  swept_of_stopped hs := (h.swept_of_stopped hs).imp_right (Multiset.mem_cons_of_mem ·)

/-- The books are about registrations and sweeps, and about nothing else in the log. -/
theorem relog {log' : List Event} (h : Books store log notes)
    (hr : registrations log' = registrations log) (hs : Swept log' ↔ Swept log) :
    Books store log' notes where
  sound note hm := by
    have hsame : note.Sound store log' ↔ note.Sound store log := by
      cases note <;> simp only [Note.Sound, Registered, hr, hs]
    exact hsame.2 (h.sound note hm)
  owned_nodup := h.owned_nodup
  registered_nodup := by
    rw [hr]
    exact h.registered_nodup
  has_registered hreg := by
    rw [Registered, hr] at hreg
    exact h.has_registered hreg
  last_of_binds hb := by
    rw [lastHolder, hr]
    exact h.last_of_binds hb
  held_of_binds := h.held_of_binds
  shut_of_binds := h.shut_of_binds
  accounted := h.accounted
  stopped_of_swept hsw := h.stopped_of_swept (hs.1 hsw)
  swept_of_stopped hst := (h.swept_of_stopped hst).imp_left hs.2

theorem owned_nodup_of_cons {note : Note} {notes : Multiset Note}
    (h : ((note ::ₘ notes).filterMap Note.owned?).Nodup) :
    (notes.filterMap Note.owned?).Nodup :=
  Multiset.nodup_of_le (Multiset.filterMap_le_filterMap _ (Multiset.le_cons_self _ _)) h

/-- A note may go if the binding or the closure that it vouches for needs nobody any more. -/
theorem tearOut {note : Note} (h : Books store log (note ::ₘ notes))
    (hheld : ∀ {n e}, note = .held n e ∨ note = .settled n e → ¬store.Binds n e)
    (hopen : ∀ {e}, note = .made e ∨ note = .owes e → store.Closed e)
    (hhalted : note = .halted → Swept log) : Books store log notes where
  sound other hm := h.sound other (Multiset.mem_cons_of_mem hm)
  owned_nodup := owned_nodup_of_cons h.owned_nodup
  registered_nodup := h.registered_nodup
  has_registered := h.has_registered
  last_of_binds := h.last_of_binds
  held_of_binds {n e} hb := by
    rcases h.held_of_binds hb with hm | hm
    · rcases Multiset.mem_cons.1 hm with heq | hm
      · exact absurd hb (hheld (.inl heq.symm))
      · exact .inl hm
    · rcases Multiset.mem_cons.1 hm with heq | hm
      · exact absurd hb (hheld (.inr heq.symm))
      · exact .inr hm
  shut_of_binds := h.shut_of_binds
  accounted {e} hh hc := by
    rcases h.accounted hh hc with hb | hm | hm
    · exact .inl hb
    · rcases Multiset.mem_cons.1 hm with heq | hm
      · exact absurd (hopen (.inl heq.symm)) hc
      · exact .inr (.inl hm)
    · rcases Multiset.mem_cons.1 hm with heq | hm
      · exact absurd (hopen (.inr heq.symm)) hc
      · exact .inr (.inr hm)
  stopped_of_swept := h.stopped_of_swept
  swept_of_stopped hs := by
    rcases h.swept_of_stopped hs with hs | hm
    · exact .inl hs
    · rcases Multiset.mem_cons.1 hm with heq | hm
      · exact .inl (hhalted heq.symm)
      · exact .inr hm

theorem forget {note : Note} (h : Books store log (note ::ₘ notes)) (hi : note.Idle) :
    Books store log notes := by
  refine h.tearOut ?_ ?_ ?_
  · rintro n e (rfl | rfl) <;> exact hi.elim
  · rintro e (rfl | rfl) <;> exact hi.elim
  · rintro rfl
    exact hi.elim

theorem forgetAll {idle : Multiset Note} (h : Books store log (idle + notes))
    (hi : AllIdle idle) : Books store log notes := by
  induction idle using Multiset.induction_on with
  | empty => rwa [zero_add] at h
  | cons note idle ih =>
    rw [Multiset.cons_add] at h
    refine ih (h.forget (hi note (Multiset.mem_cons_self _ _))) fun other hm => ?_
    exact hi other (Multiset.mem_cons_of_mem hm)

/-- A debt is paid when the endpoint is closed. -/
theorem pay {e : EndpointId} (h : Books store log (.owes e ::ₘ notes)) (hc : store.Closed e) :
    Books store log notes := by
  refine h.tearOut ?_ ?_ (by simp)
  · rintro n x (hx | hx) <;> cases hx
  · rintro x (hx | hx) <;> cases hx
    exact hc

/-- The owner's note changes while the endpoint stays its own. -/
theorem rewrite {note new : Note} {e : EndpointId} (h : Books store log (note ::ₘ notes))
    (ho : note.owned? = some e) (hn : new.owned? = some e) (hs : new.Sound store log)
    (hheld : ∀ {n x}, note = .held n x ∨ note = .settled n x →
      store.Binds n x → new = .held n x ∨ new = .settled n x)
    (hmade : ∀ {x}, note = .made x → new = .made x) : Books store log (new ::ₘ notes) where
  sound := by
    intro other hm
    rcases Multiset.mem_cons.1 hm with rfl | hm
    · exact hs
    · exact h.sound other (Multiset.mem_cons_of_mem hm)
  owned_nodup := by
    have hd := h.owned_nodup
    rw [Multiset.filterMap_cons_some _ _ _ ho] at hd
    rw [Multiset.filterMap_cons_some _ _ _ hn]
    exact hd
  registered_nodup := h.registered_nodup
  has_registered := h.has_registered
  last_of_binds := h.last_of_binds
  held_of_binds {n x} hb := by
    have hnew : note = .held n x ∨ note = .settled n x →
        .held n x ∈ new ::ₘ notes ∨ .settled n x ∈ new ::ₘ notes := by
      intro hx
      rcases hheld hx hb with rfl | rfl
      · exact .inl (Multiset.mem_cons_self _ _)
      · exact .inr (Multiset.mem_cons_self _ _)
    rcases h.held_of_binds hb with hm | hm
    · rcases Multiset.mem_cons.1 hm with heq | hm
      · exact hnew (.inl heq.symm)
      · exact .inl (Multiset.mem_cons_of_mem hm)
    · rcases Multiset.mem_cons.1 hm with heq | hm
      · exact hnew (.inr heq.symm)
      · exact .inr (Multiset.mem_cons_of_mem hm)
  shut_of_binds := h.shut_of_binds
  accounted {x} hh hc := by
    rcases h.accounted hh hc with hb | hm | hm
    · exact .inl hb
    · rcases Multiset.mem_cons.1 hm with heq | hm
      · rw [hmade heq.symm]
        exact .inr (.inl (Multiset.mem_cons_self _ _))
      · exact .inr (.inl (Multiset.mem_cons_of_mem hm))
    · rcases Multiset.mem_cons.1 hm with heq | hm
      · rw [← heq] at ho
        cases ho
      · exact .inr (.inr (Multiset.mem_cons_of_mem hm))
  stopped_of_swept := h.stopped_of_swept
  swept_of_stopped hs := by
    refine (h.swept_of_stopped hs).imp_right fun hm => ?_
    rcases Multiset.mem_cons.1 hm with heq | hm
    · rw [← heq] at ho
      cases ho
    · exact Multiset.mem_cons_of_mem hm

/-- Whoever held a name that its endpoint has lost has nothing more to let go of. -/
theorem retire {n : Name} {e : EndpointId} {note : Note}
    (hnote : note = .held n e ∨ note = .settled n e) (h : Books store log (note ::ₘ notes))
    (hb : ∀ n, ¬store.Binds n e) : Books store log (.retired e ::ₘ notes) := by
  have ho : note.owned? = some e := by rcases hnote with rfl | rfl <;> rfl
  have hh := h.has_owned (Multiset.mem_cons_self _ _) ho
  refine h.rewrite ho rfl ⟨hh, hb⟩ ?_ ?_
  · intro n' x hx hbx
    rcases hnote with rfl | rfl <;> rcases hx with hx | hx <;> cases hx <;>
      exact absurd hbx (hb n)
  · intro x hx
    rcases hnote with rfl | rfl <;> cases hx

/-- A holder that sees that the hub has not stopped was in time for the sweep. -/
theorem settle {n : Name} {e : EndpointId} (h : Books store log (.held n e ::ₘ notes))
    (hs : store.stopped = false) : Books store log (.settled n e ::ₘ notes) := by
  have hreg : Registered log n e := h.sound _ (Multiset.mem_cons_self _ _)
  refine h.rewrite rfl rfl ⟨hreg, fun hsw => ?_⟩ ?_ ?_
  · rw [h.stopped_of_swept hsw] at hs
    cases hs
  · rintro n' x (hx | hx) _ <;> cases hx
    exact .inr rfl
  · intro x hx
    cases hx

end Books

end BroadcastChat
