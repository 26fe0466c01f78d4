/-
# The registry

Who is connected: at most one endpoint for each name, the names in ascending
order. Registering under a name that is taken supersedes its holder; an entry
is removed only together with the endpoint it is believed to hold, so a stale
removal does nothing.

Key definitions: `Registry`, `Registry.lookup`, `Registry.register`,
`Registry.removeIfCurrent`, `Registry.snapshotExcept`, `Registry.names`.
Key theorems: `Registry.lookup_empty`, `Registry.pairwise_put`.
-/
import BroadcastChat.Endpoint

namespace BroadcastChat

/-- A name and the endpoint that holds it. -/
abbrev Binding : Type := Name × EndpointId

/-- Bindings in the order of their names, no name twice. -/
structure Registry where
  bindings : List Binding
  ascending : bindings.Pairwise fun a b => a.1 < b.1
  deriving DecidableEq

namespace Registry

/-- Nobody is connected. -/
def empty : Registry := ⟨[], .nil⟩

/-! ### Looking -/

/-- The endpoint that holds a name. -/
def lookup (registry : Registry) (name : Name) : Option EndpointId :=
  (registry.bindings.find? fun binding => binding.1 = name).map Prod.snd

/-- The names that are held, in ascending order. -/
def names (registry : Registry) : List Name := registry.bindings.map Prod.fst

/-- Every binding but that of one name. -/
def snapshotExcept (registry : Registry) (name : Name) : List Binding :=
  registry.bindings.filter fun binding => binding.1 ≠ name

/-- How many names are held. -/
def size (registry : Registry) : Nat := registry.bindings.length

@[simp] theorem lookup_empty (name : Name) : empty.lookup name = none := rfl

/-! ### Changing -/

/-- The bindings with a name bound to an endpoint. -/
def put (name : Name) (endpoint : EndpointId) : List Binding → List Binding
  | [] => [(name, endpoint)]
  | binding :: rest =>
    if name < binding.1 then (name, endpoint) :: binding :: rest
    else if binding.1 = name then (name, endpoint) :: rest
    else binding :: put name endpoint rest

theorem mem_put {name : Name} {endpoint : EndpointId} {bindings : List Binding} {b : Binding}
    (h : b ∈ put name endpoint bindings) : b = (name, endpoint) ∨ b ∈ bindings := by
  induction bindings with
  | nil => simpa [put] using h
  | cons c rest ih =>
    unfold put at h
    split at h
    · simpa using h
    · split at h
      · simp only [List.mem_cons] at h ⊢
        rcases h with h | h
        · exact .inl h
        · exact .inr (.inr h)
      · simp only [List.mem_cons] at h ⊢
        rcases h with h | h
        · exact .inr (.inl h)
        · rcases ih h with h | h
          · exact .inl h
          · exact .inr (.inr h)

theorem lt_of_not_lt {a b : Name} (hlt : ¬a < b) (hne : b ≠ a) : b < a := by
  apply Decidable.byContradiction
  intro h
  exact hne (Name.ext_text (String.le_antisymm hlt h))

/-- Binding a name keeps the names in ascending order. -/
theorem pairwise_put {name : Name} {endpoint : EndpointId} {bindings : List Binding}
    (h : bindings.Pairwise fun a b => a.1 < b.1) :
    (put name endpoint bindings).Pairwise fun a b => a.1 < b.1 := by
  induction bindings with
  | nil => simp [put]
  | cons c rest ih =>
    obtain ⟨hc, hrest⟩ := List.pairwise_cons.1 h
    unfold put
    split
    · rename_i hlt
      refine List.pairwise_cons.2 ⟨fun b hb => ?_, h⟩
      rcases List.mem_cons.1 hb with rfl | hb
      · exact hlt
      · exact String.lt_trans hlt (hc b hb)
    · split
      · rename_i heq
        exact List.pairwise_cons.2 ⟨fun b hb => heq ▸ hc b hb, hrest⟩
      · rename_i hlt hne
        refine List.pairwise_cons.2 ⟨fun b hb => ?_, ih hrest⟩
        rcases mem_put hb with rfl | hb
        · exact lt_of_not_lt hlt hne
        · exact hc b hb

/-- Binds a name to an endpoint, and says which other endpoint it supersedes. -/
def register (registry : Registry) (name : Name) (endpoint : EndpointId) :
    Option EndpointId × Registry :=
  ((registry.lookup name).filter (· ≠ endpoint),
    ⟨put name endpoint registry.bindings, pairwise_put registry.ascending⟩)

/-- Frees a name. -/
def erase (registry : Registry) (name : Name) : Registry :=
  ⟨registry.snapshotExcept name, registry.ascending.filter _⟩

/-- Frees a name if this endpoint holds it, and says whether it did. -/
def removeIfCurrent (registry : Registry) (name : Name) (endpoint : EndpointId) :
    Bool × Registry :=
  if registry.lookup name = some endpoint then (true, registry.erase name) else (false, registry)

end Registry

end BroadcastChat
