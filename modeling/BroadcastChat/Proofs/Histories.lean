/-
# Histories of a registry

All that can be asked of a registry, and what it answers. In which order it
lists bindings is its own affair: two answers are alike if they differ in that
order only (`Operation.Alike`), and a history (`History`) may hold, for each of
its operations, any answer like the one of the registry at that point. The
registry after a history is that of its operations alone (`History.after_eq`).

These operations are the ones that the hub has: whatever a program does to the
registry it does by a history (`exists_history_of_run`).

Key definitions: `Registry.Operation`, `Operation.perform`, `Operation.Gives`,
`Registry.Transaction`, `Registry.History`, `Registry.record`.
Key theorems: `Operation.Gives.alike`, `History.after_eq`, `history_record`,
`exists_history_of_run`.
-/
import BroadcastChat.Proofs.Actions

namespace BroadcastChat.Registry

/-! ### Operations -/

/-- What can be asked of a registry. -/
inductive Operation where
  /-- Binds a name to an endpoint, and learns which other one it supersedes. -/
  | register (name : Name) (endpoint : EndpointId)
  /-- Frees a name if the endpoint still holds it, and learns whether it did. -/
  | removeIfCurrent (name : Name) (endpoint : EndpointId)
  | lookup (name : Name)
  | names
  | snapshotExcept (name : Name)
  /-- Takes all bindings out. -/
  | drain
  | size
  deriving DecidableEq

namespace Operation

/-- What an operation answers. -/
@[reducible]
def Answer : Operation → Type
  | .register _ _ => Option EndpointId
  | .removeIfCurrent _ _ => Bool
  | .lookup _ => Option EndpointId
  | .names => List Name
  | .snapshotExcept _ => List Binding
  | .drain => List Binding
  | .size => Nat

/-- Performs an operation. -/
def perform (registry : Registry) : (operation : Operation) → operation.Answer × Registry
  | .register name endpoint => registry.register name endpoint
  | .removeIfCurrent name endpoint => registry.removeIfCurrent name endpoint
  | .lookup name => (registry.lookup name, registry)
  | .names => (registry.names, registry)
  | .snapshotExcept name => (registry.snapshotExcept name, registry)
  | .drain => (registry.bindings, .empty)
  | .size => (registry.size, registry)

/-- Whether two answers say the same: the order in which bindings are listed says nothing. -/
def Alike : (operation : Operation) → operation.Answer → operation.Answer → Prop
  | .register _ _, answer, other => answer = other
  | .removeIfCurrent _ _, answer, other => answer = other
  | .lookup _, answer, other => answer = other
  | .names, answer, other => answer = other
  | .snapshotExcept _, bindings, others => bindings.Perm others
  | .drain, bindings, others => bindings.Perm others
  | .size, answer, other => answer = other

theorem Alike.refl (operation : Operation) (answer : operation.Answer) :
    operation.Alike answer answer := by
  cases operation with
  | snapshotExcept | drain => exact List.Perm.refl answer
  | _ => exact rfl

theorem Alike.trans_symm {operation : Operation} {answer other third : operation.Answer}
    (h : operation.Alike answer third) (h' : operation.Alike other third) :
    operation.Alike answer other := by
  cases operation with
  | snapshotExcept | drain => exact List.Perm.trans h (List.Perm.symm h')
  | _ => exact Eq.trans h (Eq.symm h')

/-- Whether a registry may give an answer. -/
def Gives (registry : Registry) (operation : Operation) (answer : operation.Answer) : Prop :=
  operation.Alike answer (operation.perform registry).1

theorem gives_perform (registry : Registry) (operation : Operation) :
    operation.Gives registry (operation.perform registry).1 :=
  Alike.refl operation _

/-- A registry gives one answer only, order aside. -/
theorem Gives.alike {registry : Registry} {operation : Operation} {answer other : operation.Answer}
    (h : operation.Gives registry answer) (h' : operation.Gives registry other) :
    operation.Alike answer other :=
  Alike.trans_symm h h'

end Operation

/-! ### Histories -/

/-- An operation and its answer. -/
structure Reply where
  operation : Operation
  answer : operation.Answer

/-- A reply, and the registry as it was before. -/
structure Transaction where
  before : Registry
  reply : Reply

/-- What may happen to a registry, and the registry after it. -/
inductive History : Registry → List Transaction → Registry → Prop where
  | start (registry : Registry) : History registry [] registry
  | step {registry after : Registry} {operation : Operation} {answer : operation.Answer}
      {later : List Transaction} (gives : operation.Gives registry answer)
      (rest : History (operation.perform registry).2 later after) :
      History registry (⟨registry, operation, answer⟩ :: later) after

/-- The operations of a history. -/
def operations (history : List Transaction) : List Operation := history.map (·.reply.operation)

/-- The registry after some operations. -/
def run (registry : Registry) (ops : List Operation) : Registry :=
  ops.foldl (fun registry operation => (operation.perform registry).2) registry

/-- What happens if every list is given in the order of the names. -/
def record (registry : Registry) : List Operation → List Transaction
  | [] => []
  | operation :: rest =>
    ⟨registry, operation, (operation.perform registry).1⟩ ::
      record (operation.perform registry).2 rest

/-- **Every operation is answered**, whatever was asked before. -/
theorem history_record (registry : Registry) (ops : List Operation) :
    History registry (record registry ops) (registry.run ops) := by
  induction ops generalizing registry with
  | nil => exact .start registry
  | cons operation rest ih => exact .step (operation.gives_perform registry) (ih _)

@[simp] theorem operations_record (registry : Registry) (ops : List Operation) :
    operations (record registry ops) = ops := by
  induction ops generalizing registry with
  | nil => rfl
  | cons operation rest ih => exact congrArg (operation :: ·) (ih _)

/-- **What is left does not depend on the order in which bindings were listed.** -/
theorem History.after_eq {registry after : Registry} {history : List Transaction}
    (h : History registry history after) : after = registry.run (operations history) := by
  induction h with
  | start => rfl
  | step _ _ ih => exact ih

theorem History.append {registry mid after : Registry} {early late : List Transaction}
    (h : History registry early mid) (h' : History mid late after) :
    History registry (early ++ late) after := by
  induction h with
  | start => exact h'
  | step gives _ ih => exact .step gives (ih h')

/-! ### The hub's use of it -/

/-- **Whatever a program does to the registry, it does by these operations.** -/
theorem exists_history_of_run {α : Type} (time : Timestamp) (program : Program α) (store : Store) :
    ∃ history, History store.registry history (program.run time store).2.registry := by
  induction program generalizing store with
  | done => exact ⟨[], .start _⟩
  | step action next ih =>
    have hone : ∃ history,
        History store.registry history (action.perform time store).2.registry := by
      cases action with
      | register name endpoint =>
        exact ⟨_, history_record store.registry [.register name endpoint]⟩
      | removeIfCurrent name endpoint =>
        exact ⟨_, history_record store.registry [.removeIfCurrent name endpoint]⟩
      | drain => exact ⟨_, history_record store.registry [.drain]⟩
      | deliver endpoint delivery =>
        have hsame : ((Action.deliver endpoint delivery).perform time store).2.registry =
            store.registry := Action.Quiet.registry_eq trivial
        exact ⟨[], hsame ▸ .start store.registry⟩
      | _ => exact ⟨[], .start _⟩
    obtain ⟨early, hearly⟩ := hone
    obtain ⟨late, hlate⟩ := ih (action.perform time store).1 (action.perform time store).2
    exact ⟨early ++ late, hearly.append hlate⟩

/-! ### Two names -/

namespace Sample

def rouz : Name := ⟨"rouz", by decide, by decide⟩

def igor : Name := ⟨"igor", by decide, by decide⟩

end Sample

end BroadcastChat.Registry
