/-
# What the registry answers after a change

The registry is a map from names to endpoints that happens to be a sorted
list. Everything else is said through `Registry.lookup`: it finds exactly the
bindings (`mem_bindings_iff`), and each change is one equation about it.

Key theorems: `Registry.mem_bindings_iff`, `Registry.lookup_register`,
`Registry.lookup_removeIfCurrent`, `Registry.mem_snapshotExcept`,
`Registry.mem_names`, `Registry.pairwise_names`, `Registry.ext_lookup`.
-/
import BroadcastChat.Registry

namespace BroadcastChat

namespace Name

theorem lt_irrefl (a : Name) : ¬a < a := String.lt_irrefl a.text

theorem ne_of_lt {a b : Name} (h : a < b) : a ≠ b := by
  rintro rfl
  exact lt_irrefl a h

end Name

namespace Registry

/-! ### Looking -/

theorem find?_name {bindings : List Binding} (h : bindings.Pairwise fun a b => a.1 < b.1)
    (name : Name) (endpoint : EndpointId) :
    ((bindings.find? fun binding => binding.1 = name).map Prod.snd) = some endpoint ↔
      (name, endpoint) ∈ bindings := by
  induction bindings with
  | nil => simp
  | cons b rest ih =>
    obtain ⟨hb, hrest⟩ := List.pairwise_cons.1 h
    obtain ⟨n, e⟩ := b
    by_cases hn : n = name
    · subst hn
      have hout : (n, endpoint) ∉ rest := fun hmem => Name.lt_irrefl n (hb _ hmem)
      simp [hout, eq_comm]
    · rw [List.find?_cons_of_neg (by simpa using hn), ih hrest, List.mem_cons]
      have : (name, endpoint) ≠ (n, e) := fun heq => hn (by cases heq; rfl)
      simp [this]

/-- Looking a name up finds exactly its binding. -/
theorem mem_bindings_iff {registry : Registry} {name : Name} {endpoint : EndpointId} :
    (name, endpoint) ∈ registry.bindings ↔ registry.lookup name = some endpoint :=
  (find?_name registry.ascending name endpoint).symm

theorem mem_names {registry : Registry} {name : Name} :
    name ∈ registry.names ↔ ∃ endpoint, registry.lookup name = some endpoint := by
  simp only [names, List.mem_map, Prod.exists, exists_and_right, exists_eq_right,
    mem_bindings_iff]

theorem pairwise_names (registry : Registry) : registry.names.Pairwise (· < ·) := by
  rw [names, List.pairwise_map]
  exact registry.ascending

theorem mem_snapshotExcept {registry : Registry} {name excluded : Name} {endpoint : EndpointId} :
    (name, endpoint) ∈ registry.snapshotExcept excluded ↔
      registry.lookup name = some endpoint ∧ name ≠ excluded := by
  simp [snapshotExcept, mem_bindings_iff]

theorem eq_empty_of_lookup {registry : Registry} (h : ∀ name, registry.lookup name = none) :
    registry = empty := by
  obtain ⟨bindings, hasc⟩ := registry
  cases bindings with
  | nil => rfl
  | cons b rest =>
    have hb : (b.1, b.2) ∈ (⟨b :: rest, hasc⟩ : Registry).bindings := List.mem_cons_self
    rw [mem_bindings_iff, h] at hb
    cases hb

theorem nodup_bindings (registry : Registry) : registry.bindings.Nodup := by
  refine registry.ascending.imp fun {a b} hlt heq => ?_
  exact Name.ne_of_lt hlt (congrArg Prod.fst heq)

/-- A registry is what it answers. -/
theorem ext_lookup {registry other : Registry}
    (h : ∀ n e, registry.lookup n = some e ↔ other.lookup n = some e) : registry = other := by
  have hperm : registry.bindings.Perm other.bindings := by
    refine (List.perm_ext_iff_of_nodup registry.nodup_bindings
      other.nodup_bindings).2 fun ⟨n, e⟩ => ?_
    rw [mem_bindings_iff, mem_bindings_iff, h]
  have heq : registry.bindings = other.bindings := by
    refine hperm.eq_of_pairwise (fun a b _ _ hlt hgt => ?_) registry.ascending other.ascending
    exact absurd (String.lt_trans hlt hgt) (Name.lt_irrefl _)
  cases registry
  cases other
  cases heq
  rfl

/-! ### Changing -/

theorem mem_put_iff {name n : Name} {endpoint e : EndpointId} {bindings : List Binding}
    (h : bindings.Pairwise fun a b => a.1 < b.1) :
    (n, e) ∈ put name endpoint bindings ↔
      if n = name then e = endpoint else (n, e) ∈ bindings := by
  induction bindings with
  | nil =>
    by_cases hn : n = name <;> simp [put, hn]
  | cons c rest ih =>
    obtain ⟨hc, hrest⟩ := List.pairwise_cons.1 h
    unfold put
    split
    · rename_i hlt
      by_cases hn : n = name
      · -- the new name comes before every other one, so it was not bound
        subst hn
        have hout : (n, e) ∉ c :: rest := by
          intro hmem
          rcases List.mem_cons.1 hmem with rfl | hmem
          · exact Name.lt_irrefl n hlt
          · exact Name.lt_irrefl n (String.lt_trans hlt (hc _ hmem))
        rw [List.mem_cons, if_pos rfl]
        simp [hout]
      · simp [hn]
    · split
      · rename_i heq
        by_cases hn : n = name
        · subst hn
          have hout : (n, e) ∉ rest := fun hmem => Name.ne_of_lt (hc _ hmem) heq
          simp [hout]
        · have : (n, e) ≠ c := fun h' => hn (by rw [← heq, ← h'])
          simp [hn, this]
      · rename_i hne
        rw [List.mem_cons, ih hrest]
        by_cases hn : n = name
        · subst hn
          have : (n, e) ≠ c := fun h' => hne (by rw [← h'])
          simp [this]
        · simp [hn]

theorem lookup_register (registry : Registry) (name other : Name) (endpoint : EndpointId) :
    (registry.register name endpoint).2.lookup other =
      if other = name then some endpoint else registry.lookup other := by
  apply Option.ext
  intro e
  rw [← mem_bindings_iff]
  simp only [register, mem_put_iff registry.ascending]
  split
  · simp [eq_comm]
  · exact mem_bindings_iff

/-- What registering answers: the holder before, if it is another one. -/
theorem register_fst (registry : Registry) (name : Name) (endpoint : EndpointId) :
    (registry.register name endpoint).1 = (registry.lookup name).filter (· ≠ endpoint) := rfl

theorem lookup_erase (registry : Registry) (name other : Name) :
    (registry.erase name).lookup other = if other = name then none else registry.lookup other := by
  apply Option.ext
  intro e
  rw [← mem_bindings_iff]
  simp only [erase, snapshotExcept, List.mem_filter, mem_bindings_iff]
  by_cases h : other = name <;> simp [h]

/-- What a conditional removal answers: whether the endpoint holds the name. -/
theorem removeIfCurrent_fst (registry : Registry) (name : Name) (endpoint : EndpointId) :
    (registry.removeIfCurrent name endpoint).1 = decide (registry.lookup name = some endpoint) := by
  unfold removeIfCurrent
  split <;> simp [*]

theorem lookup_removeIfCurrent (registry : Registry) (name other : Name) (endpoint : EndpointId) :
    (registry.removeIfCurrent name endpoint).2.lookup other =
      if other = name ∧ registry.lookup name = some endpoint then none
      else registry.lookup other := by
  unfold removeIfCurrent
  by_cases h : registry.lookup name = some endpoint
  · rw [if_pos h, lookup_erase]
    by_cases ho : other = name <;> simp [ho, h]
  · rw [if_neg h, if_neg (fun hc => h hc.2)]

theorem lookup_removeIfCurrent_eq_some {registry : Registry} {name other : Name}
    {endpoint e : EndpointId} :
    (registry.removeIfCurrent name endpoint).2.lookup other = some e ↔
      registry.lookup other = some e ∧ (other, e) ≠ (name, endpoint) := by
  rw [lookup_removeIfCurrent]
  by_cases ho : other = name
  · subst ho
    by_cases h : registry.lookup other = some endpoint
    · simp [h, eq_comm]
    · by_cases he : e = endpoint
      · subst he; simp [h]
      · simp [h, he]
  · simp [ho]

end Registry

end BroadcastChat
