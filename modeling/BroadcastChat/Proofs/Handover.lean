/-
# Nobody falls out of a registry unnoticed

Whoever becomes the holder of a name has to be closed some day by whoever is
handed the endpoint: the one who superseded it, removed it or drained the
registry. One operation keeps the balance between the times an endpoint took a
name and the times it was handed out for it, counting that it holds the name
now (`balance_step`); so does a history, by induction (`History.balance`).

Key definitions: `Transaction.Takes`, `Reply.handsOut`, `Registry.held`.
Key theorems: `balance_step`, `History.balance`, `register_again`,
`every_holder_is_handed_out`.
-/
import BroadcastChat.Proofs.Histories
import Mathlib.Algebra.GroupWithZero.Nat

namespace BroadcastChat.Registry

/-- Whether an endpoint becomes the holder of a name, which it was not before. -/
def Transaction.Takes (name : Name) (endpoint : EndpointId) (transaction : Transaction) : Prop :=
  transaction.reply.operation = .register name endpoint ∧
    transaction.before.lookup name ≠ some endpoint

instance (name : Name) (endpoint : EndpointId) (transaction : Transaction) :
    Decidable (transaction.Takes name endpoint) :=
  inferInstanceAs (Decidable (_ ∧ _))

theorem Transaction.not_takes {name : Name} {endpoint : EndpointId} {transaction : Transaction}
    (h : transaction.reply.operation ≠ .register name endpoint) :
    ¬transaction.Takes name endpoint :=
  fun htakes => h htakes.1

/-- How often an endpoint is handed out for a name: as the one superseded, as the one removed, or
in the list of those that were taken out. -/
def Reply.handsOut (name : Name) (endpoint : EndpointId) : Reply → Nat
  | ⟨.register n _, superseded⟩ => if n = name ∧ superseded = some endpoint then 1 else 0
  | ⟨.removeIfCurrent n e, removed⟩ => if (n, e) = (name, endpoint) ∧ removed = true then 1 else 0
  | ⟨.drain, bindings⟩ => bindings.count (name, endpoint)
  | _ => 0

/-- How often an endpoint holds a name: once or not at all. -/
def held (registry : Registry) (name : Name) (endpoint : EndpointId) : Nat :=
  if registry.lookup name = some endpoint then 1 else 0

section

variable {registry : Registry} {name : Name} {endpoint : EndpointId}

/-! ### One operation -/

theorem count_bindings {bindings : List Binding} (h : bindings.Perm registry.bindings) :
    bindings.count (name, endpoint) = registry.held name endpoint := by
  rw [h.count_eq, registry.nodup_bindings.count]
  exact ite_congr (propext mem_bindings_iff) (fun _ => rfl) fun _ => rfl

/-- Whoever is superseded held the name and is another one. -/
theorem register_fst_eq_some_iff {e : EndpointId} : (registry.register name e).1 = some endpoint ↔
    registry.lookup name = some endpoint ∧ endpoint ≠ e := by
  rw [register_fst, Option.filter_eq_some_iff, decide_eq_true_eq]

/-- **Who registers again under the name it holds is not handed out**, and changes nothing. -/
theorem register_again (h : registry.lookup name = some endpoint) :
    registry.register name endpoint = (none, registry) := by
  refine Prod.ext ?_ ?_
  · rw [register_fst, h]
    simp
  · refine ext_lookup fun n e => ?_
    rw [lookup_register]
    split
    · rename_i hn
      rw [hn, h]
    · rfl

theorem balance_register (n : Name) (e : EndpointId) :
    (if (⟨registry, .register n e, (registry.register n e).1⟩ : Transaction).Takes name endpoint
        then 1 else 0) + registry.held name endpoint =
      Reply.handsOut name endpoint ⟨.register n e, (registry.register n e).1⟩ +
        (registry.register n e).2.held name endpoint := by
  simp only [Transaction.Takes, Reply.handsOut, held, lookup_register, Operation.register.injEq]
  by_cases hn : n = name
  · -- the name itself: its holder gives way, unless it is the one that comes
    subst hn
    simp only [register_fst_eq_some_iff, true_and, if_true, Option.some.injEq]
    by_cases he : e = endpoint
    · subst he
      by_cases hb : registry.lookup n = some e <;> simp [hb]
    · simp [he, Ne.symm he]
  · simp [hn, Ne.symm hn]

theorem balance_removeIfCurrent (n : Name) (e : EndpointId) :
    registry.held name endpoint =
      Reply.handsOut name endpoint ⟨.removeIfCurrent n e, (registry.removeIfCurrent n e).1⟩ +
        (registry.removeIfCurrent n e).2.held name endpoint := by
  simp only [Reply.handsOut, held, lookup_removeIfCurrent_eq_some, removeIfCurrent_fst,
    decide_eq_true_eq]
  by_cases hne : (n, e) = (name, endpoint)
  · cases hne
    by_cases hb : registry.lookup name = some endpoint <;> simp [hb]
  · simp [hne, Ne.symm hne]

/-- **One operation keeps the balance.** -/
theorem balance_step (name : Name) (endpoint : EndpointId) {operation : Operation}
    {answer : operation.Answer} (gives : operation.Gives registry answer) :
    (if (⟨registry, operation, answer⟩ : Transaction).Takes name endpoint then 1 else 0) +
        registry.held name endpoint =
      Reply.handsOut name endpoint ⟨operation, answer⟩ +
        (operation.perform registry).2.held name endpoint := by
  cases operation with
  | register n e =>
    cases gives
    exact balance_register n e
  | removeIfCurrent n e =>
    cases gives
    rw [if_neg (Transaction.not_takes (by simp)), Nat.zero_add]
    exact balance_removeIfCurrent n e
  | drain =>
    -- whoever held the name is listed, and holds nothing any more
    have hcount : Reply.handsOut name endpoint ⟨.drain, answer⟩ = registry.held name endpoint :=
      count_bindings gives
    have hempty : (Operation.drain.perform registry).2.held name endpoint = 0 := rfl
    rw [if_neg (Transaction.not_takes (by simp)), hcount, hempty, Nat.zero_add, Nat.add_zero]
  | lookup | names | snapshotExcept | size =>
    rw [if_neg (Transaction.not_takes (by simp))]
    rfl

/-! ### A history -/

/-- **A history keeps the balance.** -/
theorem History.balance {after : Registry} {history : List Transaction}
    (h : History registry history after) (name : Name) (endpoint : EndpointId) :
    history.countP (·.Takes name endpoint) + registry.held name endpoint =
      (history.map (·.reply.handsOut name endpoint)).sum + after.held name endpoint := by
  induction h with
  | start => simp
  | step gives rest ih =>
    have hone := balance_step name endpoint gives
    rw [List.countP_cons, List.map_cons, List.sum_cons]
    simp only [decide_eq_true_eq]
    omega

end

/-- **Nobody falls out of a registry unnoticed.** Whatever is asked of a registry that is empty at
first: an endpoint has become the holder of a name, not being so before, as often as it has been
handed out for the name, as superseded, removed or taken out with all others, and once more if it
holds the name now. And who registers again under the name it holds is not handed out. -/
theorem every_holder_is_handed_out {history : List Transaction} {after : Registry}
    (h : History .empty history after) (name : Name) (endpoint : EndpointId) :
    history.countP (·.Takes name endpoint) =
        (history.map (·.reply.handsOut name endpoint)).sum +
          (if after.lookup name = some endpoint then 1 else 0) ∧
      ∀ registry : Registry, registry.lookup name = some endpoint →
        registry.register name endpoint = (none, registry) := by
  refine ⟨?_, fun registry hb => register_again hb⟩
  have hempty : empty.held name endpoint = 0 := rfl
  have hbalance := h.balance name endpoint
  rwa [hempty, Nat.add_zero] at hbalance

namespace Sample

/-- An endpoint comes under two names, registers again, is superseded under one of them, comes
back, is taken out with everybody and comes back once more. -/
def comings : List Operation :=
  [.register rouz ⟨0⟩, .register igor ⟨0⟩, .register rouz ⟨0⟩, .register rouz ⟨1⟩,
    .removeIfCurrent rouz ⟨0⟩, .register rouz ⟨0⟩, .drain, .register rouz ⟨0⟩]

end Sample

/-- Who came three times under a name and was superseded once and taken out once holds it now. -/
theorem every_holder_is_handed_out_returning :
    History .empty (record .empty Sample.comings) (Registry.empty.run Sample.comings) ∧
      (record .empty Sample.comings).countP (·.Takes Sample.rouz ⟨0⟩) = 3 ∧
      ((record .empty Sample.comings).map (·.reply.handsOut Sample.rouz ⟨0⟩)).sum + 1 = 3 ∧
      (Registry.empty.run Sample.comings).register Sample.rouz ⟨0⟩ =
        (none, Registry.empty.run Sample.comings) := by
  have hhistory := history_record .empty Sample.comings
  have hheld : (Registry.empty.run Sample.comings).lookup Sample.rouz = some ⟨0⟩ := by decide
  have htaken : (record .empty Sample.comings).countP (·.Takes Sample.rouz ⟨0⟩) = 3 := by decide
  obtain ⟨hbalance, hagain⟩ := every_holder_is_handed_out hhistory Sample.rouz ⟨0⟩
  rw [htaken, if_pos hheld] at hbalance
  exact ⟨hhistory, htaken, hbalance.symm, hagain _ hheld⟩

end BroadcastChat.Registry
