/-
# Names do not touch each other in a registry

What is asked about one name (`Operation.concerns`) and what is answered to it
(`Reply.about?`) hang on the holder of that name alone, and nothing that
concerns other names changes that holder. So a history looks from one name
like the history of the operations that concern it (`History.about_alone`).
Emptying the registry concerns every name: of what is answered to it, a name is
told its own binding. Two histories that look alike from every name end in the
same registry, since a registry is what it answers.

Key definitions: `Operation.concerns`, `Reply.about?`, `about`, `drained`,
`Name.codePoints`.
Key theorems: `Operation.about?_congr`, `History.about_alone`,
`History.eq_of_alone`, `perm_of_parts`, `names_are_independent`.
-/
import BroadcastChat.Proofs.Histories
import Mathlib.Data.List.Forall2

namespace BroadcastChat

/-! ### The order of names -/

/-- The code points of a name's characters. -/
def Name.codePoints (name : Name) : List Nat := name.text.toList.map Char.toNat

theorem Name.codePoints_lt {a b : Name} (h : a < b) : a.codePoints < b.codePoints := by
  have htext : a.text.toList < b.text.toList := String.lt_iff.1 h
  exact List.map_lt (fun c d hlt => hlt) htext

namespace Registry

/-! ### What concerns a name -/

/-- Whether an operation is addressed to a name, or to all names at once. -/
def Operation.concerns (name : Name) : Operation → Bool
  | .register n _ | .removeIfCurrent n _ | .lookup n => n = name
  | .drain => true
  | .names | .snapshotExcept _ | .size => false

/-- What a name is told: the answers to what is addressed to it, and its own part of what is taken
out with everybody. -/
def Reply.about? (name : Name) : Reply → Option Reply
  | ⟨.register n e, answer⟩ => if n = name then some ⟨.register n e, answer⟩ else none
  | ⟨.removeIfCurrent n e, answer⟩ => if n = name then some ⟨.removeIfCurrent n e, answer⟩ else none
  | ⟨.lookup n, answer⟩ => if n = name then some ⟨.lookup n, answer⟩ else none
  | ⟨.drain, bindings⟩ => some ⟨.drain, bindings.filter fun b => b.1 = name⟩
  | _ => none

/-- The bindings that are taken out with everybody. -/
def Reply.drained? : Reply → Option (List Binding)
  | ⟨.drain, bindings⟩ => some bindings
  | _ => none

/-- What is taken out in a history, each time the registry is emptied. -/
def drained (history : List Transaction) : List (List Binding) :=
  history.filterMap fun transaction => transaction.reply.drained?

/-- What a name is told in a history. -/
def about (name : Name) (history : List Transaction) : List Reply :=
  history.filterMap fun transaction => transaction.reply.about? name

theorem about_cons (name : Name) (transaction : Transaction) (later : List Transaction) :
    about name (transaction :: later) =
      (transaction.reply.about? name).toList ++ about name later := by
  unfold about
  cases h : transaction.reply.about? name with
  | none => exact List.filterMap_cons_none h
  | some reply => exact List.filterMap_cons_some h

section

variable {registry other : Registry} {name : Name} {operation : Operation}

/-! ### One operation -/

theorem filter_bindings {bindings : List Binding} (h : bindings.Perm registry.bindings) :
    bindings.filter (fun b => b.1 = name) = (registry.lookup name).toList.map (name, ·) := by
  have hperm : (bindings.filter fun b => b.1 = name).Perm
      ((registry.lookup name).toList.map (name, ·)) := by
    refine (h.filter _).trans ((List.perm_ext_iff_of_nodup ?_ ?_).2 fun ⟨n, e⟩ => ?_)
    · exact registry.nodup_bindings.filter _
    · cases registry.lookup name <;> simp
    · simp only [List.mem_filter, mem_bindings_iff, decide_eq_true_eq, List.mem_map,
        Option.mem_toList, Prod.mk.injEq]
      constructor
      · rintro ⟨hb, rfl⟩
        exact ⟨e, hb, rfl, rfl⟩
      · rintro ⟨_, hb, rfl, rfl⟩
        exact ⟨hb, rfl⟩
  cases hb : registry.lookup name with
  | none => simpa [hb] using hperm
  | some e => simpa [hb] using hperm

/-- What does not concern a name leaves it with its holder. -/
theorem Operation.lookup_of_not_concerns (h : operation.concerns name = false) :
    (operation.perform registry).2.lookup name = registry.lookup name := by
  cases operation with
  | register n e =>
    have hne : n ≠ name := of_decide_eq_false h
    exact (lookup_register registry n name e).trans (if_neg hne.symm)
  | removeIfCurrent n e =>
    have hne : n ≠ name := of_decide_eq_false h
    exact (lookup_removeIfCurrent registry n name e).trans (if_neg fun hc => hne.symm hc.1)
  | drain => cases h
  | lookup | names | snapshotExcept | size => rfl

/-- What concerns a name leaves it with a holder that hangs on the one before alone. -/
theorem Operation.lookup_congr (h : registry.lookup name = other.lookup name) :
    (operation.perform registry).2.lookup name = (operation.perform other).2.lookup name := by
  cases operation with
  | register n e =>
    simp only [perform, lookup_register, h]
  | removeIfCurrent n e =>
    simp only [perform, lookup_removeIfCurrent]
    by_cases hn : name = n
    · subst hn
      rw [h]
    · simp [hn, h]
  | drain => rfl
  | lookup | names | snapshotExcept | size => exact h

theorem Operation.about?_of_not_concerns (h : operation.concerns name = false)
    (answer : operation.Answer) : Reply.about? name ⟨operation, answer⟩ = none := by
  cases operation with
  | register | removeIfCurrent | lookup => exact if_neg (of_decide_eq_false h)
  | drain => cases h
  | names | snapshotExcept | size => rfl

/-- **What a name is told hangs on its holder alone.** -/
theorem Operation.about?_congr {answer answer' : operation.Answer}
    (h : registry.lookup name = other.lookup name) (gives : operation.Gives registry answer)
    (gives' : operation.Gives other answer') :
    Reply.about? name ⟨operation, answer⟩ = Reply.about? name ⟨operation, answer'⟩ := by
  cases hc : operation.concerns name with
  | false => rw [about?_of_not_concerns hc, about?_of_not_concerns hc]
  | true =>
    cases operation with
    | register n e =>
      cases gives
      cases gives'
      obtain rfl : n = name := of_decide_eq_true hc
      simp only [perform, register_fst, h]
    | removeIfCurrent n e =>
      cases gives
      cases gives'
      obtain rfl : n = name := of_decide_eq_true hc
      simp only [perform, removeIfCurrent_fst, h]
    | lookup n =>
      cases gives
      cases gives'
      obtain rfl : n = name := of_decide_eq_true hc
      simp only [perform, h]
    | drain =>
      simp only [Reply.about?]
      rw [filter_bindings gives, filter_bindings gives', h]
    | names | snapshotExcept | size => cases hc

/-! ### Histories -/

variable {history alone others : List Transaction} {after after' : Registry}

/-- **From one name a history looks like that of the operations that concern it.** -/
theorem History.about_alone (h : History registry history after) (h' : History other alone after')
    (hsame : registry.lookup name = other.lookup name)
    (halone : operations alone = (operations history).filter (·.concerns name)) :
    about name history = about name alone ∧ after.lookup name = after'.lookup name := by
  induction h generalizing other alone with
  | start =>
    cases h' with
    | start => exact ⟨rfl, hsame⟩
    | step => cases halone
  | @step registry after operation answer later gives rest ih =>
    cases hc : operation.concerns name with
    | true =>
      -- both do this operation next
      have halone' : operations alone =
          operation :: (operations later).filter (·.concerns name) :=
        halone.trans (List.filter_cons_of_pos hc)
      cases h' with
      | start => cases halone'
      | step gives' rest' =>
        obtain ⟨rfl, hrest⟩ := List.cons.inj halone'
        obtain ⟨habout, hafter⟩ := ih rest' (Operation.lookup_congr hsame) hrest
        refine ⟨?_, hafter⟩
        rw [about_cons, about_cons, habout, Operation.about?_congr hsame gives gives']
    | false =>
      -- only the history with all operations does it
      have halone' : operations alone = (operations later).filter (·.concerns name) :=
        halone.trans (List.filter_cons_of_neg (by simp [hc]))
      obtain ⟨habout, hafter⟩ :=
        ih h' ((Operation.lookup_of_not_concerns hc).trans hsame) halone'
      refine ⟨?_, hafter⟩
      rw [about_cons, Operation.about?_of_not_concerns hc answer]
      exact habout

/-- Two histories in which the same concerns a name look alike from it. -/
theorem History.about_eq (h : History registry history after) (h' : History registry others after')
    (hsame : (operations history).filter (·.concerns name) =
      (operations others).filter (·.concerns name)) :
    about name history = about name others ∧ after.lookup name = after'.lookup name := by
  have halone := history_record registry ((operations history).filter (·.concerns name))
  obtain ⟨habout, hafter⟩ := h.about_alone halone rfl (operations_record _ _)
  obtain ⟨habout', hafter'⟩ := h'.about_alone halone rfl ((operations_record _ _).trans hsame)
  exact ⟨habout.trans habout'.symm, hafter.trans hafter'.symm⟩

/-! ### Putting the names together -/

/-- What a name is told of the bindings that are taken out is its own part of them. -/
theorem drained_about (name : Name) (history : List Transaction) :
    (about name history).filterMap Reply.drained? =
      (drained history).map fun bindings => bindings.filter fun b => b.1 = name := by
  rw [about, drained, List.filterMap_filterMap, List.map_filterMap]
  congr 1
  funext ⟨_, operation, answer⟩
  cases operation with
  | register n | removeIfCurrent n | lookup n =>
    by_cases hn : n = name <;> simp [Reply.about?, Reply.drained?, hn]
  | drain | names | snapshotExcept | size => rfl

/-- Lists of which every name has the same part hold the same bindings. -/
theorem perm_of_parts {bindings others : List Binding}
    (h : ∀ name, bindings.filter (fun b => b.1 = name) = others.filter (fun b => b.1 = name)) :
    bindings.Perm others := by
  refine List.perm_iff_count.2 fun b => ?_
  have hown : decide (b.1 = b.1) = true := decide_eq_true rfl
  calc bindings.count b = (bindings.filter fun c => c.1 = b.1).count b :=
        (List.count_filter (p := fun c : Binding => decide (c.1 = b.1)) hown).symm
    _ = (others.filter fun c => c.1 = b.1).count b := by rw [h b.1]
    _ = others.count b := List.count_filter (p := fun c : Binding => decide (c.1 = b.1)) hown

theorem forall₂_perm_of_parts {lists lists' : List (List Binding)}
    (h : ∀ name, lists.map (fun bindings => bindings.filter fun b => b.1 = name) =
      lists'.map fun bindings => bindings.filter fun b => b.1 = name) :
    List.Forall₂ List.Perm lists lists' := by
  induction lists generalizing lists' with
  | nil =>
    cases lists' with
    | nil => exact .nil
    | cons => cases h Sample.rouz
  | cons bindings rest ih =>
    cases lists' with
    | nil => cases h Sample.rouz
    | cons others rest' =>
      refine .cons (perm_of_parts fun name => ?_) (ih fun name => ?_)
      · exact (List.cons.inj (h name)).1
      · exact (List.cons.inj (h name)).2

theorem count_snapshotExcept {bindings : List Binding}
    (h : (Operation.snapshotExcept name).Gives registry bindings) (n : Name) (e : EndpointId) :
    bindings.count (n, e) = if registry.lookup n = some e ∧ n ≠ name then 1 else 0 := by
  have hperm : bindings.Perm (registry.snapshotExcept name) := h
  have hnodup : (registry.snapshotExcept name).Nodup := registry.nodup_bindings.filter _
  rw [hperm.count_eq, hnodup.count]
  exact ite_congr (propext mem_snapshotExcept) (fun _ => rfl) fun _ => rfl

end

/-- **Names do not touch each other.** Whatever is asked of a registry that is empty at first:
each name is told, and ends up with, what it would if nobody had asked anything about other names
but to take out everybody. Two ways to put in order what is asked, with the same for each name in
the same order and nothing moved past a time when everybody is taken out, take out the same
bindings each time and end in registries that answer alike. At every point the names are listed in
ascending order of their code points, as many as there are, a name if and only if somebody holds
it; and a list of all bindings but those of one name has each of them once. -/
theorem names_are_independent {history : List Transaction} {after : Registry}
    (h : History .empty history after) :
    (∀ (name : Name) (alone : List Transaction) (after' : Registry), History .empty alone after' →
      operations alone = (operations history).filter (·.concerns name) →
      about name history = about name alone ∧ after.lookup name = after'.lookup name) ∧
    (∀ (others : List Transaction) (after' : Registry), History .empty others after' →
      (∀ name, (operations history).filter (·.concerns name) =
        (operations others).filter (·.concerns name)) →
      (∀ name, about name history = about name others) ∧
      List.Forall₂ List.Perm (drained history) (drained others) ∧
      ∀ (operation : Operation) (answer answer' : operation.Answer),
        operation.Gives after answer → operation.Gives after' answer' →
        operation.Alike answer answer') ∧
    (after.names.map Name.codePoints).Pairwise (· < ·) ∧ after.names.length = after.size ∧
    ∀ name, (name ∈ after.names ↔ ∃ endpoint, after.lookup name = some endpoint) ∧
      ∀ bindings, (Operation.snapshotExcept name).Gives after bindings →
        ∀ n e, bindings.count (n, e) = if after.lookup n = some e ∧ n ≠ name then 1 else 0 := by
  refine ⟨?_, ?_, ?_, ?_, fun name => ⟨mem_names, fun bindings hgives => ?_⟩⟩
  · intro name alone after' h' halone
    exact h.about_alone h' rfl halone
  · intro others after' h' hsame
    have habout : ∀ name, about name history = about name others :=
      fun name => (h.about_eq h' (hsame name)).1
    have hlookup : ∀ name, after.lookup name = after'.lookup name :=
      fun name => (h.about_eq h' (hsame name)).2
    have hafter : after = after' := ext_lookup fun n e => by rw [hlookup n]
    refine ⟨habout, forall₂_perm_of_parts fun name => ?_, ?_⟩
    · rw [← drained_about, ← drained_about, habout name]
    · rintro operation answer answer' hgives hgives'
      rw [← hafter] at hgives'
      exact hgives.alike hgives'
  · rw [List.pairwise_map]
    exact after.pairwise_names.imp Name.codePoints_lt
  · exact List.length_map Prod.fst
  · exact fun n e => count_snapshotExcept hgives n e

namespace Sample

/-- Two endpoints come under two names, everybody is taken out, and one comes back. -/
def mixed : List Operation :=
  [.register rouz ⟨0⟩, .register igor ⟨1⟩, .names, .register rouz ⟨2⟩, .removeIfCurrent igor ⟨0⟩,
    .drain, .lookup rouz, .register igor ⟨1⟩]

/-- The same for each name, in another order. -/
def sorted : List Operation :=
  [.register igor ⟨1⟩, .removeIfCurrent igor ⟨0⟩, .register rouz ⟨0⟩, .register rouz ⟨2⟩,
    .drain, .register igor ⟨1⟩, .size, .lookup rouz]

theorem mixed_sorted (name : Name) :
    mixed.filter (·.concerns name) = sorted.filter (·.concerns name) := by
  have hne : rouz ≠ igor := by decide
  simp only [mixed, sorted, List.filter_cons, List.filter_nil]
  by_cases hrouz : rouz = name
  · have higor : igor ≠ name := fun h => hne (hrouz.trans h.symm)
    simp [Operation.concerns, hrouz, higor]
  · simp [Operation.concerns, hrouz]

end Sample

/-- Both orders take out the same two bindings, whichever is listed first, and leave one name. -/
theorem names_are_independent_mixed :
    (∀ name, about name (record .empty Sample.mixed) = about name (record .empty Sample.sorted)) ∧
      List.Forall₂ List.Perm (drained (record .empty Sample.mixed))
        (drained (record .empty Sample.sorted)) ∧
      drained (record .empty Sample.mixed) = [[(Sample.igor, ⟨1⟩), (Sample.rouz, ⟨2⟩)]] ∧
      (Registry.empty.run Sample.mixed).names = [Sample.igor] ∧
      (Registry.empty.run Sample.sorted).names = [Sample.igor] := by
  obtain ⟨-, hinterleaved, -⟩ := names_are_independent (history_record .empty Sample.mixed)
  obtain ⟨habout, hdrained, halike⟩ :=
    hinterleaved _ _ (history_record .empty Sample.sorted) fun name => by
      rw [operations_record, operations_record, Sample.mixed_sorted]
  have hnames : (Registry.empty.run Sample.mixed).names = [Sample.igor] := by decide
  have hsame : (Registry.empty.run Sample.mixed).names = (Registry.empty.run Sample.sorted).names :=
    halike .names _ _ (Operation.gives_perform _ _) (Operation.gives_perform _ _)
  exact ⟨habout, hdrained, by decide, hnames, hsame ▸ hnames⟩

end Registry

end BroadcastChat
