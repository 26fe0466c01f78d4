/-
# What each action does to the books

After a quiet action the books are right as they stand. Making an endpoint
and registering one write a line; superseding somebody, removing a binding
and emptying the registry each leave the debt of a closure; and a closure may
only hit an endpoint that holds no name.

Key definitions: `BooksAfter`, `debts`.
Key theorems: `Books.quiet`, `Books.create`, `Books.register`, `Books.remove`,
`Books.stop`, `Books.drain`, `Books.close`, `Books.close_made`.
-/
import BroadcastChat.Proofs.Books

namespace BroadcastChat

/-- The notes agree with the store and the log as they are after an action. -/
def BooksAfter (time : Timestamp) (store : Store) (log : List Event) (action : Action)
    (notes : Multiset Note) : Prop :=
  Books (action.perform time store).2 (log ++ [⟨action, (action.perform time store).1⟩]) notes

section

variable {time : Timestamp} {store : Store} {log : List Event} {notes : Multiset Note}
  {action : Action}

/-! ### Debts -/

/-- The debts that a registration leaves: the closure of the superseded endpoint. -/
def debts (superseded : Option EndpointId) : Multiset Note :=
  superseded.elim 0 fun previous => {.owes previous}

theorem mem_debts {superseded : Option EndpointId} {note : Note} :
    note ∈ debts superseded ↔ ∃ previous, superseded = some previous ∧ note = .owes previous := by
  cases superseded <;> simp [debts]

theorem filterMap_debts (superseded : Option EndpointId) :
    (debts superseded).filterMap Note.owned? = 0 := by
  cases superseded <;> rfl

/-! ### What stays true -/

theorem registered_snoc {action : Action} {answer : action.Answer} {n : Name} {e : EndpointId}
    (h : Registered log n e) : Registered (log ++ [⟨action, answer⟩]) n e :=
  registered_append.2 (.inl h)

theorem registered_of_snoc {action : Action} {answer : action.Answer}
    (ha : ∀ name endpoint, action ≠ .register name endpoint) {n : Name} {e : EndpointId}
    (h : Registered (log ++ [⟨action, answer⟩]) n e) : Registered log n e := by
  rcases registered_append.1 h with h | h
  · exact h
  · rw [Registered, registrations_singleton_of_ne ha] at h
    cases h

theorem swept_of_snoc {action : Action} {answer : action.Answer} (ha : action ≠ .drain)
    (h : Swept (log ++ [⟨action, answer⟩])) : Swept log := by
  rcases swept_append.1 h with h | h
  · exact h
  · exact absurd (swept_singleton.1 h) ha

theorem lastHolder_snoc {action : Action} {answer : action.Answer}
    (ha : ∀ name endpoint, action ≠ .register name endpoint) (n : Name) :
    lastHolder (log ++ [⟨action, answer⟩]) n = lastHolder log n := by
  have hnone : lastHolder [⟨action, answer⟩] n = none := by
    refine lastHolder_eq_none fun e h => ?_
    rw [Registered, registrations_singleton_of_ne ha] at h
    cases h
  rw [lastHolder_append, hnone, Option.none_or]

/-- A note stays true if nobody shuts or registers what it says is new, nobody binds what it
says is free, and a sweep leaves its endpoint free. -/
theorem Note.Sound.perform {note : Note} (h : note.Sound store log)
    (hhas : ∀ {n e}, Registered log n e → store.Has e)
    (hmade : ∀ e, note = .made e → ((action.perform time store).2.endpoint e).shut = false ∧
      ∀ n, ¬Registered [⟨action, (action.perform time store).1⟩] n e)
    (hbinds : ∀ e, note.unbound? = some e → ∀ n,
      (action.perform time store).2.Binds n e → action ≠ .drain ∧ store.Binds n e) :
    note.Sound (action.perform time store).2
      (log ++ [⟨action, (action.perform time store).1⟩]) := by
  cases note with
  | made e =>
    obtain ⟨hh, _, hn⟩ := h
    obtain ⟨hs, hnew⟩ := hmade e rfl
    refine ⟨Action.has_mono hh, hs, fun n hr => ?_⟩
    rcases registered_append.1 hr with hr | hr
    · exact hn n hr
    · exact hnew n hr
  | held n e => exact registered_snoc h
  | known n e => exact registered_snoc h
  | refused n e => exact registered_snoc h
  | settled n e =>
    obtain ⟨hr, hsw⟩ := h
    refine ⟨registered_snoc hr, fun hsw' hb => ?_⟩
    obtain ⟨hd, hb⟩ := hbinds e rfl n hb
    exact hsw (swept_of_snoc hd hsw') hb
  | retired e =>
    obtain ⟨hh, hb⟩ := h
    exact ⟨Action.has_mono hh, fun n hb' => hb n (hbinds e rfl n hb').2⟩
  | seenClosed n e =>
    obtain ⟨hr, hc⟩ := h
    exact ⟨registered_snoc hr, Action.closed_mono (hhas hr) hc⟩
  | owes e =>
    obtain ⟨⟨n, hr⟩, hb⟩ := h
    exact ⟨⟨n, registered_snoc hr⟩, fun n' hb' => hb n' (hbinds e rfl n' hb').2⟩
  | halted => exact Action.stopped_mono h
  | swept => exact swept_append.2 (.inl h)
  | asking => trivial
  | parting => trivial

namespace Books

/-- The books after an action that registers nobody: what is new is accounted for by new notes,
and nothing is torn out but that an endpoint was made which the action closed. -/
theorem carry {notes' : Multiset Note} (h : Books store log notes)
    (hreg : ∀ n e, action ≠ .register n e)
    (hsub : ∀ note ∈ notes, note ∈ notes' ∨
      ∃ e, note = .made e ∧ (action.perform time store).2.Closed e)
    (hnew : ∀ note ∈ notes', note ∈ notes ∨ note.Sound (action.perform time store).2
      (log ++ [⟨action, (action.perform time store).1⟩]))
    (hown : (notes'.filterMap Note.owned?).Nodup)
    (hbinds : ∀ {n e}, (action.perform time store).2.Binds n e →
      action ≠ .drain ∧ store.Binds n e)
    (hshut : ∀ {e}, store.Has e → .made e ∈ notes' ∨ (∃ n, store.Binds n e) →
      ((action.perform time store).2.endpoint e).shut = (store.endpoint e).shut)
    (hhas : ∀ {e}, (action.perform time store).2.Has e → store.Has e ∨ .made e ∈ notes')
    (hlost : ∀ {n e}, store.Binds n e →
      (action.perform time store).2.Binds n e ∨ .owes e ∈ notes')
    (hdrain : action = .drain → store.stopped = true)
    (hstop : action = .stop → .halted ∈ notes') :
    BooksAfter time store log action notes' where
  sound := by
    intro note hm
    rcases hnew note hm with hold | hs
    · refine (h.sound note hold).perform h.has_registered ?_ fun e _ n hb => hbinds hb
      rintro e rfl
      obtain ⟨hh, hs, _⟩ := h.sound _ hold
      rw [hshut hh (.inl hm)]
      refine ⟨hs, fun n hr => ?_⟩
      rw [Registered, registrations_singleton_of_ne hreg] at hr
      cases hr
    · exact hs
  owned_nodup := hown
  registered_nodup := by
    rw [registrations_append, registrations_singleton_of_ne hreg, List.append_nil]
    exact h.registered_nodup
  has_registered hr := Action.has_mono (h.has_registered (registered_of_snoc hreg hr))
  last_of_binds hb := by
    rw [lastHolder_snoc hreg]
    exact h.last_of_binds (hbinds hb).2
  held_of_binds hb := by
    refine (h.held_of_binds (hbinds hb).2).imp (fun hm => ?_) (fun hm => ?_)
    · exact (hsub _ hm).resolve_right (by simp)
    · exact (hsub _ hm).resolve_right (by simp)
  shut_of_binds hb := by
    obtain ⟨_, hb⟩ := hbinds hb
    rw [hshut (h.has_of_binds hb) (.inr ⟨_, hb⟩)]
    exact h.shut_of_binds hb
  accounted hh hc := by
    rcases hhas hh with hh | hm
    · rcases h.accounted hh fun hc' => hc (Action.closed_mono hh hc') with ⟨n, hb⟩ | hm | hm
      · rcases hlost hb with hb | ho
        · exact .inl ⟨n, hb⟩
        · exact .inr (.inr ho)
      · rcases hsub _ hm with hm | ⟨x, heq, hx⟩
        · exact .inr (.inl hm)
        · cases heq
          exact absurd hx hc
      · exact .inr (.inr ((hsub _ hm).resolve_right (by simp)))
    · exact .inr (.inl hm)
  stopped_of_swept hs := by
    rcases swept_append.1 hs with hs | hs
    · exact Action.stopped_mono (h.stopped_of_swept hs)
    · exact Action.stopped_mono (hdrain (swept_singleton.1 hs))
  swept_of_stopped hs := by
    by_cases hst : action = .stop
    · exact .inr (hstop hst)
    · rw [Action.stopped_eq hst] at hs
      rcases h.swept_of_stopped hs with hs | hm
      · exact .inl (swept_append.2 (.inl hs))
      · exact .inr ((hsub _ hm).resolve_right (by simp))

/-- A quiet action leaves the books right as they stand. -/
theorem quiet (hq : action.Quiet) (h : Books store log notes) :
    BooksAfter time store log action notes := by
  have hdrain : action ≠ .drain := by
    rintro rfl
    exact hq
  refine h.carry ?_ (fun _ hm => .inl hm) (fun _ hm => .inl hm) h.owned_nodup ?_ ?_ ?_ ?_ ?_ ?_
  · rintro n e rfl
    exact hq
  · exact fun hb => ⟨hdrain, hq.binds_iff.1 hb⟩
  · exact fun _ _ => hq.shut_eq _
  · exact fun hh => .inl (hq.has_iff.1 hh)
  · exact fun hb => .inl (hq.binds_iff.2 hb)
  · exact fun hd => absurd hd hdrain
  · rintro rfl
    exact hq.elim

/-- Whoever stops the hub has to empty the registry. -/
theorem stop (h : Books store log notes) :
    BooksAfter time store log .stop (.halted ::ₘ notes) := by
  refine h.carry (by simp) (fun _ hm => .inl (Multiset.mem_cons_of_mem hm)) ?_ ?_
    (fun hb => ⟨by simp, hb⟩) (fun _ _ => rfl) (fun hh => .inl hh) (fun hb => .inl hb) (by simp)
    (fun _ => Multiset.mem_cons_self _ _)
  · intro note hm
    rcases Multiset.mem_cons.1 hm with rfl | hm
    · exact .inr rfl
    · exact .inl hm
  · rw [Multiset.filterMap_cons_none .halted notes rfl]
    exact h.owned_nodup

/-- A new endpoint is nobody's yet but its maker's. -/
theorem create {capacity : Nat} (h : Books store log notes) :
    BooksAfter time store log (.create capacity)
      (.made (store.newEndpoint capacity).1 ::ₘ notes) := by
  set new := (store.newEndpoint capacity).1 with hnew
  have hfresh : ¬store.Has new := store.not_has_newEndpoint capacity
  have hold : ∀ {e}, store.Has e →
      (store.newEndpoint capacity).2.endpoint e = store.endpoint e := by
    intro e he
    refine Store.endpoint_newEndpoint_of_ne store capacity fun heq => hfresh ?_
    rw [hnew, ← heq]
    exact he
  refine h.carry (by simp) (fun _ hm => .inl (Multiset.mem_cons_of_mem hm)) ?_ ?_ ?_ ?_ ?_ ?_
    (by simp) (by simp)
  · intro note hm
    rcases Multiset.mem_cons.1 hm with rfl | hm
    · refine .inr ⟨Store.has_newEndpoint.2 (.inr rfl), ?_, fun n hr => ?_⟩
      · simp only [Action.perform, hnew, Store.endpoint_newEndpoint_self]
        rfl
      · exact hfresh (h.has_registered (registered_of_snoc (by simp) hr))
    · exact .inl hm
  · rw [Multiset.filterMap_cons_some Note.owned? (.made new) notes rfl, Multiset.nodup_cons]
    refine ⟨fun hm => ?_, h.owned_nodup⟩
    obtain ⟨note, hmem, ho⟩ := (Multiset.mem_filterMap _ _).1 hm
    exact hfresh (h.has_owned hmem ho)
  · exact fun hb => ⟨by simp, hb⟩
  · intro e hh _
    simp only [Action.perform, hold hh]
  · intro e hh
    rcases Store.has_newEndpoint.1 hh with hh | rfl
    · exact .inl hh
    · exact .inr (Multiset.mem_cons_self _ _)
  · exact fun hb => .inl hb

/-! ### Registering -/

theorem binds_register {name n : Name} {endpoint e : EndpointId} :
    ((Action.register name endpoint).perform time store).2.Binds n e ↔
      if n = name then e = endpoint else store.Binds n e := by
  simp only [Store.Binds, Action.perform, Registry.lookup_register]
  split
  · simp [eq_comm]
  · rfl

theorem superseded_iff {name : Name} {endpoint previous : EndpointId} :
    ((Action.register name endpoint).perform time store).1 = some previous ↔
      store.Binds name previous ∧ previous ≠ endpoint := by
  simp only [Action.perform, Registry.register_fst, Option.filter_eq_some_iff,
    decide_eq_true_eq]
  rfl

section

variable {name : Name} {endpoint : EndpointId}

theorem registered_ne_made (h : Books store log (.made endpoint ::ₘ notes)) {n : Name}
    {e : EndpointId} (hr : Registered log n e) : e ≠ endpoint := by
  rintro rfl
  obtain ⟨_, _, hfresh⟩ := h.sound _ (Multiset.mem_cons_self _ _)
  exact hfresh n hr

theorem unbound_ne_made (h : Books store log (.made endpoint ::ₘ notes)) {note : Note}
    (hm : note ∈ notes) {e : EndpointId} (he : note = .made e ∨ note.unbound? = some e) :
    e ≠ endpoint := by
  rcases he with rfl | he
  · exact h.owned_ne rfl hm rfl rfl
  · have hs := h.sound note (Multiset.mem_cons_of_mem hm)
    cases note with
    | settled n x =>
      cases he
      exact h.registered_ne_made hs.1
    | retired x =>
      cases he
      exact h.owned_ne rfl hm rfl rfl
    | owes x =>
      cases he
      obtain ⟨⟨n, hr⟩, _⟩ := hs
      exact h.registered_ne_made hr
    | _ => cases he

/-- Whoever is superseded holds no name any more. -/
theorem superseded_sound (h : Books store log notes) {previous : EndpointId}
    (hp : ((Action.register name endpoint).perform time store).1 = some previous) :
    (Note.owes previous).Sound ((Action.register name endpoint).perform time store).2
      (log ++ [⟨.register name endpoint,
        ((Action.register name endpoint).perform time store).1⟩]) := by
  obtain ⟨hb, hne⟩ := superseded_iff.1 hp
  refine ⟨⟨name, registered_snoc (h.registered_of_binds hb)⟩, fun n hb' => ?_⟩
  rw [binds_register] at hb'
  split at hb'
  · exact hne hb'
  · rename_i hn
    exact hn (h.binds_unique hb' hb)

theorem sound_register (h : Books store log (.made endpoint ::ₘ notes)) {note : Note}
    (hm : note ∈ notes) : note.Sound ((Action.register name endpoint).perform time store).2
      (log ++ [⟨.register name endpoint,
        ((Action.register name endpoint).perform time store).1⟩]) := by
  have hs := h.sound note (Multiset.mem_cons_of_mem hm)
  refine hs.perform h.has_registered ?_ ?_
  · rintro e rfl
    refine ⟨hs.2.1, fun n hr => ?_⟩
    have heq := List.mem_singleton.1 hr
    exact h.unbound_ne_made hm (.inl rfl) (congrArg Prod.snd heq)
  · intro e he n hb
    rw [binds_register] at hb
    refine ⟨by simp, ?_⟩
    split at hb
    · exact absurd hb (h.unbound_ne_made hm (.inr he))
    · exact hb

/-- Whoever was the last one under a name still is, unless it was superseded. -/
theorem lastHolder_register (h : Books store log notes) {n : Name} {e : EndpointId}
    (hb : ((Action.register name endpoint).perform time store).2.Binds n e) :
    lastHolder (log ++ [⟨.register name endpoint,
      ((Action.register name endpoint).perform time store).1⟩]) n = some e := by
  rw [binds_register] at hb
  rw [lastHolder_append, lastHolder_singleton_register]
  split at hb
  · rename_i hn
    rw [if_pos hn, hb, Option.some_or]
  · rename_i hn
    rw [if_neg hn, Option.none_or]
    exact h.last_of_binds hb

/-- Whoever is open after a registration is bound, or superseded, or was accounted for before. -/
theorem accounted_register (h : Books store log (.made endpoint ::ₘ notes)) {e : EndpointId}
    (hh : store.Has e) (hc : ¬store.Closed e) :
    (∃ n, ((Action.register name endpoint).perform time store).2.Binds n e) ∨
      ((Action.register name endpoint).perform time store).1 = some e ∨
      .made e ∈ notes ∨ .owes e ∈ notes := by
  by_cases hb' : ∃ n, ((Action.register name endpoint).perform time store).2.Binds n e
  · exact .inl hb'
  have hne : e ≠ endpoint := by
    rintro rfl
    exact hb' ⟨name, binds_register.2 (by rw [if_pos rfl])⟩
  rcases h.accounted hh hc with ⟨n, hb⟩ | hm | hm
  · -- it lost its name by the registration
    have hn : n = name := by
      by_contra hn
      exact hb' ⟨n, binds_register.2 (by rw [if_neg hn]; exact hb)⟩
    subst hn
    exact .inr (.inl (superseded_iff.2 ⟨hb, hne⟩))
  · rcases Multiset.mem_cons.1 hm with heq | hm
    · cases heq
      exact absurd rfl hne
    · exact .inr (.inr (.inl hm))
  · rcases Multiset.mem_cons.1 hm with heq | hm
    · cases heq
    · exact .inr (.inr (.inr hm))

theorem register (h : Books store log (.made endpoint ::ₘ notes)) :
    BooksAfter time store log (.register name endpoint)
      (debts ((Action.register name endpoint).perform time store).1 +
        .held name endpoint ::ₘ notes) := by
  obtain ⟨hh, hshut, _⟩ := h.sound _ (Multiset.mem_cons_self _ _)
  -- the notes of the others are still there
  have hkept : ∀ {note}, note ∈ notes →
      note ∈ debts ((Action.register name endpoint).perform time store).1 +
        .held name endpoint ::ₘ notes :=
    fun hm => Multiset.mem_add.2 (.inr (Multiset.mem_cons_of_mem hm))
  have hmine : ∀ {note}, note ∈ .made endpoint ::ₘ notes → note ≠ .made endpoint →
      note ∈ debts ((Action.register name endpoint).perform time store).1 +
        .held name endpoint ::ₘ notes :=
    fun hm hne => hkept ((Multiset.mem_cons.1 hm).resolve_left hne)
  exact
    { sound := by
        intro note hm
        rcases Multiset.mem_add.1 hm with hm | hm
        · obtain ⟨previous, hp, rfl⟩ := mem_debts.1 hm
          exact h.superseded_sound hp
        · rcases Multiset.mem_cons.1 hm with rfl | hm
          · exact registered_append.2 (.inr (List.mem_singleton.2 rfl))
          · exact h.sound_register hm
      owned_nodup := by
        have hd := h.owned_nodup
        rw [Multiset.filterMap_cons_some Note.owned? (.made endpoint) notes rfl] at hd
        rw [Multiset.filterMap_add, filterMap_debts, zero_add,
          Multiset.filterMap_cons_some Note.owned? (.held name endpoint) notes rfl]
        exact hd
      registered_nodup := by
        rw [registrations_append, registrations_singleton_register, List.map_append,
          List.map_singleton, List.nodup_append]
        refine ⟨h.registered_nodup, List.nodup_singleton _, ?_⟩
        intro e he x hx
        rw [List.mem_singleton.1 hx]
        obtain ⟨b, hb, rfl⟩ := List.mem_map.1 he
        exact h.registered_ne_made hb
      has_registered := by
        intro n e hr
        rcases registered_append.1 hr with hr | hr
        · exact Action.has_mono (h.has_registered hr)
        · cases List.mem_singleton.1 hr
          exact hh
      last_of_binds := h.lastHolder_register
      held_of_binds := by
        intro n e hb
        rw [binds_register] at hb
        split at hb
        · rename_i hn
          subst hn hb
          exact .inl (Multiset.mem_add.2 (.inr (Multiset.mem_cons_self _ _)))
        · exact (h.held_of_binds hb).imp (hmine · (by simp)) (hmine · (by simp))
      shut_of_binds := by
        intro n e hb
        rw [binds_register] at hb
        split at hb
        · rw [hb]
          exact hshut
        · exact h.shut_of_binds hb
      accounted := by
        intro e hh hc
        rcases h.accounted_register hh hc with hb | hp | hm | hm
        · exact .inl hb
        · exact .inr (.inr (Multiset.mem_add.2 (.inl (mem_debts.2 ⟨e, hp, rfl⟩))))
        · exact .inr (.inl (hkept hm))
        · exact .inr (.inr (hkept hm))
      stopped_of_swept := fun hs => h.stopped_of_swept (swept_of_snoc (by simp) hs)
      swept_of_stopped := by
        intro hs
        rcases h.swept_of_stopped hs with hs | hm
        · exact .inl (swept_append.2 (.inl hs))
        · exact .inr (hmine hm (by simp)) }

end

/-! ### Removing bindings -/

theorem binds_removeIfCurrent {name n : Name} {endpoint e : EndpointId} :
    ((Action.removeIfCurrent name endpoint).perform time store).2.Binds n e ↔
      store.Binds n e ∧ (n, e) ≠ (name, endpoint) := by
  simp only [Store.Binds, Action.perform]
  exact Registry.lookup_removeIfCurrent_eq_some

theorem not_binds_removeIfCurrent {name : Name} {endpoint : EndpointId}
    (h : Books store log notes) (hr : Registered log name endpoint) (n : Name) :
    ¬((Action.removeIfCurrent name endpoint).perform time store).2.Binds n endpoint := by
  intro hb
  obtain ⟨hb, hne⟩ := binds_removeIfCurrent.1 hb
  exact hne (by rw [h.registered_unique (h.registered_of_binds hb) hr])

/-- A removal leaves the debt of a closure. -/
theorem remove {name : Name} {endpoint : EndpointId} (h : Books store log notes)
    (hr : Registered log name endpoint) :
    BooksAfter time store log (.removeIfCurrent name endpoint) (.owes endpoint ::ₘ notes) := by
  refine h.carry (by simp) (fun _ hm => .inl (Multiset.mem_cons_of_mem hm)) ?_ ?_ ?_
    (fun _ _ => rfl) (fun hh => .inl hh) ?_ (by simp) (by simp)
  · intro note hm
    rcases Multiset.mem_cons.1 hm with rfl | hm
    · exact .inr ⟨⟨name, registered_snoc hr⟩, h.not_binds_removeIfCurrent hr⟩
    · exact .inl hm
  · rw [Multiset.filterMap_cons_none (.owes endpoint) notes rfl]
    exact h.owned_nodup
  · exact fun hb => ⟨by simp, (binds_removeIfCurrent.1 hb).1⟩
  · intro n e hb
    by_cases hne : (n, e) = (name, endpoint)
    · cases hne
      exact .inr (Multiset.mem_cons_self _ _)
    · exact .inl (binds_removeIfCurrent.2 ⟨hb, hne⟩)

/-- Emptying the registry leaves the debt of closing all that it held. -/
theorem drain (h : Books store log notes) (hs : store.stopped = true) :
    BooksAfter time store log .drain
      (Multiset.map (fun b : Binding => .owes b.2) store.registry.bindings + notes) := by
  have hnone : ∀ n e, ¬(Action.drain.perform time store).2.Binds n e := by
    intro n e hb
    rw [Store.Binds, Action.perform, Registry.lookup_empty] at hb
    cases hb
  refine h.carry (by simp) (fun _ hm => .inl (Multiset.mem_add.2 (.inr hm))) ?_ ?_
    (fun hb => absurd hb (hnone _ _)) (fun _ _ => rfl) (fun hh => .inl hh) ?_ (fun _ => hs)
    (by simp)
  · intro note hm
    rcases Multiset.mem_add.1 hm with hm | hm
    · obtain ⟨b, hb, rfl⟩ := Multiset.mem_map.1 hm
      have hr := h.registered_of_mem_bindings (Multiset.mem_coe.1 hb)
      exact .inr ⟨⟨b.1, registered_snoc hr⟩, fun n => hnone n b.2⟩
    · exact .inl hm
  · have hz : (Multiset.map (fun b : Binding => Note.owes b.2)
        store.registry.bindings).filterMap Note.owned? = 0 := by
      refine Multiset.eq_zero_of_forall_notMem fun e he => ?_
      rw [Multiset.filterMap_map] at he
      obtain ⟨b, _, ho⟩ := (Multiset.mem_filterMap _ _).1 he
      cases ho
    rw [Multiset.filterMap_add, hz, zero_add]
    exact h.owned_nodup
  · intro n e hb
    refine .inr (Multiset.mem_add.2 (.inl (Multiset.mem_map.2 ⟨(n, e), ?_, rfl⟩)))
    exact Multiset.mem_coe.2 (Registry.mem_bindings_iff.2 hb)

/-! ### Closing -/

theorem closed_close {endpoint : EndpointId} (hh : store.Has endpoint) :
    ((Action.close endpoint).perform time store).2.Closed endpoint := by
  simp only [Store.Closed, Action.perform, Store.endpoint_update_self _ hh]
  exact Endpoint.isClosed_close _

theorem endpoint_close_of_ne {endpoint e : EndpointId} (hne : e ≠ endpoint) :
    ((Action.close endpoint).perform time store).2.endpoint e = store.endpoint e :=
  Store.endpoint_update_of_ne _ hne

theorem closure_elsewhere {endpoint e : EndpointId} (hne : e ≠ endpoint) :
    (((Action.close endpoint).perform time store).2.endpoint e).shut = (store.endpoint e).shut :=
  congrArg Endpoint.shut (endpoint_close_of_ne hne)

/-- A closure that hits nobody's new endpoint and none that holds a name. -/
theorem close {endpoint : EndpointId} (h : Books store log notes)
    (hm : .made endpoint ∉ notes) (hb : ∀ n, ¬store.Binds n endpoint) :
    BooksAfter time store log (.close endpoint) notes := by
  refine h.carry (by simp) (fun _ hm => .inl hm) (fun _ hm => .inl hm) h.owned_nodup
    (fun hb => ⟨by simp, hb⟩) ?_ (fun hh => .inl (Store.has_update.1 hh)) (fun hb => .inl hb)
    (by simp) (by simp)
  rintro e - (hme | ⟨n, hbe⟩)
  · exact closure_elsewhere fun heq => hm (heq ▸ hme)
  · exact closure_elsewhere fun heq => hb n (heq ▸ hbe)

/-- Whoever made an endpoint may close it instead of registering it. -/
theorem close_made {endpoint : EndpointId} (h : Books store log (.made endpoint ::ₘ notes)) :
    BooksAfter time store log (.close endpoint) (.retired endpoint ::ₘ notes) := by
  obtain ⟨hh, _, hfresh⟩ := h.sound _ (Multiset.mem_cons_self _ _)
  have hfree : ∀ n, ¬store.Binds n endpoint := fun n hb => hfresh n (h.registered_of_binds hb)
  refine h.carry (by simp) ?_ ?_ ?_ (fun hb => ⟨by simp, hb⟩) ?_
    (fun hh => .inl (Store.has_update.1 hh)) (fun hb => .inl hb) (by simp) (by simp)
  · intro note hm
    rcases Multiset.mem_cons.1 hm with rfl | hm
    · exact .inr ⟨endpoint, rfl, closed_close hh⟩
    · exact .inl (Multiset.mem_cons_of_mem hm)
  · intro note hm
    rcases Multiset.mem_cons.1 hm with rfl | hm
    · exact .inr ⟨Action.has_mono hh, hfree⟩
    · exact .inl (Multiset.mem_cons_of_mem hm)
  · have hd := h.owned_nodup
    rw [Multiset.filterMap_cons_some Note.owned? (.made endpoint) notes rfl] at hd
    rw [Multiset.filterMap_cons_some Note.owned? (.retired endpoint) notes rfl]
    exact hd
  · rintro e - (hm | ⟨n, hb⟩)
    · rcases Multiset.mem_cons.1 hm with heq | hm
      · cases heq
      · exact closure_elsewhere (h.owned_ne rfl hm rfl rfl)
    · exact closure_elsewhere fun heq => hfree n (heq ▸ hb)

end Books

end

end BroadcastChat
