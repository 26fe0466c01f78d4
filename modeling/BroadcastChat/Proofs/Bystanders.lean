/-
# Those that a task has nothing to do with

An endpoint that is bound and open stays so while others act, unless they
register somebody under its name, empty the registry, or find that it refuses
a delivery. This is so because of the rules (`Entry`): a removal needs a
refusal, a closed endpoint or one's own, and a closure needs a debt or one's
own, and a debt is never about an endpoint that is bound.

Key definitions: `Harmless`.
Key theorems: `Entry.harmless`, `Books.spare`, `Books.spare_run`,
`Books.distinct`, `Books.closed_or_binds`.
-/
import BroadcastChat.Proofs.Conduct
import BroadcastChat.Proofs.FanOut
import BroadcastChat.Proofs.Runs

namespace BroadcastChat

variable {time : Timestamp} {store : Store} {log : List Event}

/-! ### One action -/

namespace Action

variable {action : Action} {n : Name} {e : EndpointId}

theorem binds_perform (hb : store.Binds n e) (hreg : ∀ x, action ≠ .register n x)
    (hremove : action ≠ .removeIfCurrent n e) (hdrain : action ≠ .drain) :
    (action.perform time store).2.Binds n e := by
  cases action with
  | register name x =>
    have hne : n ≠ name := fun heq => hreg x (heq ▸ rfl)
    exact Books.binds_register.2 (by rw [if_neg hne]; exact hb)
  | removeIfCurrent name x =>
    refine Books.binds_removeIfCurrent.2 ⟨hb, fun heq => hremove ?_⟩
    cases heq
    rfl
  | drain => exact absurd rfl hdrain
  | create | close | stop => exact hb
  | _ =>
    refine (Quiet.binds_iff ?_).2 hb
    trivial

theorem binds_of_perform (h : (action.perform time store).2.Binds n e) :
    store.Binds n e ∨ action = .register n e := by
  cases action with
  | register name x =>
    rw [Books.binds_register] at h
    split at h
    · rename_i hn
      rw [hn, h]
      exact .inr rfl
    · exact .inl h
  | removeIfCurrent name x => exact .inl (Books.binds_removeIfCurrent.1 h).1
  | drain =>
    rw [Store.Binds, perform, Registry.lookup_empty] at h
    cases h
  | create | close | stop => exact .inl h
  | _ =>
    refine .inl ((Quiet.binds_iff ?_).1 h)
    trivial

theorem open_perform (hh : store.Has e) (hc : ¬store.Closed e) (hclose : action ≠ .close e)
    (hdrop : action ≠ .drop e) : ¬(action.perform time store).2.Closed e := by
  have hsame : ((action.perform time store).2.endpoint e).isClosed =
      (store.endpoint e).isClosed := by
    cases action with
    | create c =>
      have hne : e ≠ (store.newEndpoint c).1 := fun he => store.not_has_newEndpoint c (he ▸ hh)
      exact congrArg Endpoint.isClosed (store.endpoint_newEndpoint_of_ne c hne)
    | deliver x d =>
      rcases perform_deliver time store x d with hstay | ⟨after, hd, htaken⟩
      · rw [hstay]
      · rw [htaken]
        exact Store.update_congr Endpoint.isClosed (Endpoint.isClosed_of_deliver hd) e
    | close x =>
      have hne : e ≠ x := fun he => hclose (he ▸ rfl)
      exact congrArg Endpoint.isClosed (store.endpoint_update_of_ne Endpoint.close hne)
    | drop x =>
      have hne : e ≠ x := fun he => hdrop (he ▸ rfl)
      exact congrArg Endpoint.isClosed (store.endpoint_update_of_ne Endpoint.drop hne)
    | beginWait x => exact Store.update_congr Endpoint.isClosed (isClosed_beginWait _) e
    | endWait x => exact Store.update_congr Endpoint.isClosed rfl e
    | _ => rfl
  rw [Store.Closed, hsame]
  exact hc

end Action

/-! ### Notes that are about others -/

/-- The notes give no right to remove or close an endpoint that is bound and open. -/
def Harmless (own : Multiset Note) (e : EndpointId) : Prop :=
  ∀ note ∈ own, note.owned? ≠ some e ∧ ∀ n, note ≠ .refused n e

theorem harmless_zero {e : EndpointId} : Harmless 0 e := by
  intro note hm
  exact absurd hm (Multiset.notMem_zero _)

@[simp] theorem harmless_cons {own : Multiset Note} {note : Note} {e : EndpointId} :
    Harmless (note ::ₘ own) e ↔
      (note.owned? ≠ some e ∧ ∀ n, note ≠ .refused n e) ∧ Harmless own e := by
  simp only [Harmless, Multiset.mem_cons, forall_eq_or_imp]

@[simp] theorem harmless_add {own more : Multiset Note} {e : EndpointId} :
    Harmless (own + more) e ↔ Harmless own e ∧ Harmless more e := by
  simp only [Harmless, Multiset.mem_add, or_imp, forall_and]
  tauto

theorem harmless_debts (superseded : Option EndpointId) (e : EndpointId) :
    Harmless (debts superseded) e := by
  intro note hm
  obtain ⟨x, _, rfl⟩ := mem_debts.1 hm
  exact ⟨by simp [Note.owned?], by simp⟩

/-- Notes that are neither about what one owns nor about refusals are harmless. -/
theorem harmless_map {bindings : List Binding} {f : Binding → Note} (e : EndpointId)
    (ho : ∀ b, (f b).owned? = none) (hr : ∀ b n x, f b ≠ .refused n x) :
    Harmless (Multiset.map f bindings) e := by
  intro note hm
  obtain ⟨b, _, rfl⟩ := Multiset.mem_map.1 hm
  exact ⟨by simp [ho b], fun n => hr b n e⟩

variable {own own' rest : Multiset Note} {action : Action} {answer : action.Answer}
  {n : Name} {e : EndpointId}

theorem Entry.harmless (he : Entry own action answer own') (h : Harmless own e)
    (ha : (action.perform time store).1 = answer) (hh : store.Has e)
    (href : ∀ r, (⟨action, answer⟩ : Event).refusal? ≠ some (e, r)) : Harmless own' e := by
  cases he with
  | @create _ c x =>
    rw [harmless_cons]
    refine ⟨⟨fun heq => ?_, by simp⟩, h⟩
    cases heq
    exact store.not_has_newEndpoint c (ha ▸ hh)
  | register =>
    rw [harmless_cons] at h
    rw [harmless_add, harmless_cons]
    exact ⟨harmless_debts _ _, ⟨h.1.1, by simp⟩, h.2⟩
  | snapshot =>
    rw [harmless_add]
    exact ⟨harmless_map e (fun _ => rfl) (by simp), h⟩
  | drain =>
    rw [harmless_cons] at h
    rw [harmless_add, harmless_cons]
    exact ⟨harmless_map e (fun _ => rfl) (by simp), ⟨by simp [Note.owned?], by simp⟩, h.2⟩
  | @refuse _ n x d r =>
    rw [harmless_cons] at h ⊢
    refine ⟨⟨by simp [Note.owned?], ?_⟩, h.2⟩
    rintro n heq
    cases heq
    exact href r rfl
  | absent | intact | beginWait | endWait | received | looked | now => exact h
  | _ =>
    simp only [harmless_cons] at h ⊢
    simp_all [Note.owned?]

/-- **What a task has nothing to do with stays bound and open**, one action at a time. -/
theorem Books.spare (h : Books store log (own + rest)) (time : Timestamp)
    (he : Entry own action answer own')
    (hharm : Harmless own e) (hb : store.Binds n e) (hc : ¬store.Closed e)
    (hreg : ∀ x, action ≠ .register n x) (hdrain : action ≠ .drain) :
    (action.perform time store).2.Binds n e ∧ ¬(action.perform time store).2.Closed e := by
  have hsound : ∀ {note}, note ∈ own → note.Sound store log :=
    fun hm => h.sound _ (Multiset.mem_add.2 (.inl hm))
  have hremove : action ≠ .removeIfCurrent n e := by
    rintro rfl
    cases he with
    | prune => exact (hharm _ (Multiset.mem_cons_self _ _)).2 n rfl
    | tidy => exact hc (hsound (Multiset.mem_cons_self _ _)).2
    | release | leave =>
      exact (hharm _ (Multiset.mem_cons_of_mem (Multiset.mem_cons_self _ _))).1 rfl
  have hclose : action ≠ .close e := by
    rintro rfl
    cases he with
    | pay => exact (hsound (Multiset.mem_cons_self _ _)).2 n hb
    | discard | closeAgain => exact (hharm _ (Multiset.mem_cons_self _ _)).1 rfl
  have hdrop : action ≠ .drop e := by
    rintro rfl
    cases he with
    | drop => exact (hharm _ (Multiset.mem_cons_self _ _)).1 rfl
  exact ⟨Action.binds_perform hb hreg hremove hdrain,
    Action.open_perform (h.has_of_binds hb) hc hclose hdrop⟩

/-! ### Runs -/

theorem Program.binds_of_run {α : Type} {p : Program α} (h : (p.run time store).2.Binds n e) :
    store.Binds n e ∨ Registered (p.trace time store) n e := by
  induction p generalizing store with
  | done value => exact .inl h
  | step action next ih =>
    rw [Program.trace_step, registered_append]
    rcases ih _ h with hb | hr
    · rcases Action.binds_of_perform hb with hb | rfl
      · exact .inl hb
      · exact .inr (.inl (List.mem_singleton.2 rfl))
    · exact .inr (.inr hr)

variable {α : Type} {ends : α → Multiset Note → Prop} {p : Program α}

/-- **What a task has nothing to do with stays bound and open** through a run that registers nobody
under its name, does not empty the registry and is not refused by it. -/
theorem Books.spare_run (h : Books store log (own + rest)) (time : Timestamp)
    (hk : p.Keeps ends own)
    (hharm : Harmless own e) (hb : store.Binds n e) (hc : ¬store.Closed e)
    (hreg : ∀ x, ¬Registered (p.trace time store) n x) (hsweep : ¬Swept (p.trace time store))
    (href : ∀ r, (e, r) ∉ refusals (p.trace time store)) :
    (p.run time store).2.Binds n e ∧ ¬(p.run time store).2.Closed e := by
  induction p generalizing store log own with
  | done value => exact ⟨hb, hc⟩
  | step action next ih =>
    obtain ⟨own', he, hk⟩ := hk (action.perform time store).1
    rw [Program.trace_step] at hreg hsweep href
    have hnow : ∀ x, action ≠ .register n x := by
      rintro x rfl
      exact hreg x (registered_append.2 (.inl (List.mem_singleton.2 rfl)))
    have hdrain : action ≠ .drain := fun ha =>
      hsweep (swept_append.2 (.inl (swept_singleton.2 ha)))
    have hrefuse : ∀ r, (⟨action, (action.perform time store).1⟩ : Event).refusal? ≠
        some (e, r) := by
      intro r hr
      refine href r (List.mem_filterMap.2 ⟨_, ?_, hr⟩)
      exact List.mem_append_left _ (List.mem_singleton.2 rfl)
    obtain ⟨hb', hc'⟩ := h.spare time he hharm hb hc hnow hdrain
    refine ih _ (h.perform he rfl) hk (he.harmless hharm rfl (h.has_of_binds hb) hrefuse) hb' hc'
      ?_ ?_ ?_
    · exact fun x hx => hreg x (registered_append.2 (.inr hx))
    · exact fun hs => hsweep (swept_append.2 (.inr hs))
    · intro r hr
      rw [refusals_append] at href
      exact href r (List.mem_append_right _ hr)

/-! ### Rest -/

variable {notes : Multiset Note}

theorem Books.distinct (h : Books store log notes) : store.Distinct := by
  have hnodup : store.registry.bindings.Nodup := by
    refine store.registry.ascending.imp ?_
    rintro a b hlt rfl
    exact Name.lt_irrefl _ hlt
  refine hnodup.map_on ?_
  rintro ⟨n, e⟩ hm ⟨n', e'⟩ hm' heq
  cases heq
  rw [h.binds_unique (Registry.mem_bindings_iff.1 hm) (Registry.mem_bindings_iff.1 hm')]

theorem Books.closed_or_binds (h : Books store log notes) (ho : .owes e ∉ notes)
    (hr : Registered log n e) : store.Closed e ∨ store.Binds n e := by
  by_cases hc : store.Closed e
  · exact .inl hc
  · rcases h.accounted (h.has_registered hr) hc with ⟨n', hb⟩ | hm | hm
    · rw [h.registered_unique hr (h.registered_of_binds hb)]
      exact .inr hb
    · exact absurd hr ((h.sound _ hm).2.2 n)
    · exact absurd hm ho

end BroadcastChat
