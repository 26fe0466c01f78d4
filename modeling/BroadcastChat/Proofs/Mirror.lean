/-
# Stores that mirror each other

Two stores on which the same was done, but for what the listeners of one name
did on the first of them, have the same endpoints under other numbers. A
`Pairing` says which endpoint of the first store is the twin of which one of the
second, and which ones are strays, that is, endpoints of the name's listeners,
which have no twin. The stores mirror each other (`Store.Mirrors`) if twins are
equal, the streams and the stop signal are the same, and the registries list the
same names with twins, in the same order, but for the name with a stray.

Every change that is made to twins, and every one that is made to a stray alone,
keeps this up.

Key definitions: `Beside`, `Pairing`, `Store.Mirrors`.
Key theorems: `Beside.put`, `Beside.put_stray`, `Store.Mirrors.update`,
`Store.Mirrors.update_stray`, `Store.Mirrors.register`,
`Store.Mirrors.removeIfCurrent`, `Store.Mirrors.exists_twins`,
`Store.Mirrors.exists_stray`.
-/
import BroadcastChat.Proofs.Actions

namespace BroadcastChat

/-! ### Lists side by side -/

/-- The lists go together entry by entry, but for entries of the first one that are hidden. -/
inductive Beside {α β : Type} (both : α → β → Prop) (hidden : α → Prop) : List α → List β → Prop
  | nil : Beside both hidden [] []
  | cons {a : α} {b : β} {list : List α} {list' : List β} (h : both a b)
      (hrest : Beside both hidden list list') : Beside both hidden (a :: list) (b :: list')
  | skip {a : α} {list : List α} {list' : List β} (h : hidden a)
      (hrest : Beside both hidden list list') : Beside both hidden (a :: list) list'

namespace Beside

variable {α β : Type} {both both' : α → β → Prop} {hidden hidden' : α → Prop} {list more : List α}
  {list' more' : List β} {a : α} {b : β}

theorem mono (h : Beside both hidden list list') (hboth : ∀ a b, both a b → both' a b)
    (hhidden : ∀ a, hidden a → hidden' a) : Beside both' hidden' list list' := by
  induction h with
  | nil => exact .nil
  | cons h _ ih => exact .cons (hboth _ _ h) ih
  | skip h _ ih => exact .skip (hhidden _ h) ih

theorem append (h : Beside both hidden list list') (hmore : Beside both hidden more more') :
    Beside both hidden (list ++ more) (list' ++ more') := by
  induction h with
  | nil => exact hmore
  | cons h _ ih => exact .cons h ih
  | skip h _ ih => exact .skip h ih

theorem of_mem (h : Beside both hidden list list') (hm : a ∈ list) :
    hidden a ∨ ∃ b ∈ list', both a b := by
  induction h with
  | nil => cases hm
  | cons h _ ih =>
    rcases List.mem_cons.1 hm with rfl | hm
    · exact .inr ⟨_, List.mem_cons_self, h⟩
    · exact (ih hm).imp_right fun ⟨b, hb, hab⟩ => ⟨b, List.mem_cons_of_mem _ hb, hab⟩
  | skip h _ ih =>
    rcases List.mem_cons.1 hm with rfl | hm
    · exact .inl h
    · exact ih hm

theorem exists_of_mem (h : Beside both hidden list list') (hm : b ∈ list') :
    ∃ a ∈ list, both a b := by
  induction h with
  | nil => cases hm
  | cons h _ ih =>
    rcases List.mem_cons.1 hm with rfl | hm
    · exact ⟨_, List.mem_cons_self, h⟩
    · obtain ⟨a, ha, hab⟩ := ih hm
      exact ⟨a, List.mem_cons_of_mem _ ha, hab⟩
  | skip _ _ ih =>
    obtain ⟨a, ha, hab⟩ := ih hm
    exact ⟨a, List.mem_cons_of_mem _ ha, hab⟩

theorem filter {p : α → Bool} {q : β → Bool} (h : Beside both hidden list list')
    (hpq : ∀ a b, both a b → p a = q b) :
    Beside both hidden (list.filter p) (list'.filter q) := by
  induction h with
  | nil => exact .nil
  | @cons a b _ _ h _ ih =>
    rw [List.filter_cons, List.filter_cons, hpq a b h]
    split
    · exact .cons h ih
    · exact ih
  | @skip a _ _ h _ ih =>
    rw [List.filter_cons]
    split
    · exact .skip h ih
    · exact ih

/-- Hidden entries can be left out. -/
theorem filter_left {p : α → Bool} (h : Beside both hidden list list')
    (hp : ∀ a b, both a b → p a = true) : Beside both hidden (list.filter p) list' := by
  induction h with
  | nil => exact .nil
  | @cons a b _ _ h _ ih =>
    rw [List.filter_cons, if_pos (hp a b h)]
    exact .cons h ih
  | @skip a _ _ h _ ih =>
    rw [List.filter_cons]
    split
    · exact .skip h ih
    · exact ih

/-- Where nothing is hidden the lists go together place by place. -/
theorem getElem? (h : Beside both hidden list list') (hnone : ∀ a ∈ list, ¬hidden a) (i : Nat) :
    Option.Rel both list[i]? list'[i]? := by
  induction h generalizing i with
  | nil => exact .none
  | cons h _ ih =>
    cases i with
    | zero => exact .some h
    | succ i => exact ih (fun a hm => hnone a (List.mem_cons_of_mem _ hm)) i
  | skip h _ _ => exact absurd h (hnone _ List.mem_cons_self)

theorem erase [BEq α] [LawfulBEq α] [BEq β] [LawfulBEq β] (h : Beside both hidden list list')
    (hab : ∀ c d, both c d → (c = a ↔ d = b)) (ha : ¬hidden a) :
    Beside both hidden (list.erase a) (list'.erase b) := by
  induction h with
  | nil => exact .nil
  | @cons c d _ _ h hrest ih =>
    by_cases hc : c = a
    · rw [hc, (hab c d h).1 hc, List.erase_cons_head, List.erase_cons_head]
      exact hrest
    · have hd : d ≠ b := fun hd => hc ((hab c d h).2 hd)
      rw [List.erase_cons_tail (by simpa using hc), List.erase_cons_tail (by simpa using hd)]
      exact .cons h ih
  | @skip c _ _ h hrest ih =>
    have hc : c ≠ a := fun hc => ha (hc ▸ h)
    rw [List.erase_cons_tail (by simpa using hc)]
    exact .skip h ih

theorem erase_left [BEq α] [LawfulBEq α] (h : Beside both hidden list list')
    (ha : ∀ b, ¬both a b) : Beside both hidden (list.erase a) list' := by
  induction h with
  | nil => exact .nil
  | @cons c d _ _ h _ ih =>
    have hc : c ≠ a := fun hc => ha d (hc ▸ h)
    rw [List.erase_cons_tail (by simpa using hc)]
    exact .cons h ih
  | @skip c _ _ h hrest ih =>
    by_cases hc : c = a
    · rw [hc, List.erase_cons_head]
      exact hrest
    · rw [List.erase_cons_tail (by simpa using hc)]
      exact .skip h ih

end Beside

/-! ### Which endpoint is which -/

/-- Which endpoints of two stores are twins, and which ones of the first have no twin. -/
structure Pairing where
  twins : EndpointId → EndpointId → Prop
  stray : EndpointId → Prop
  left_unique : ∀ {e e' x}, twins e x → twins e' x → e = e'
  right_unique : ∀ {e x x'}, twins e x → twins e x' → x = x'
  not_stray : ∀ {e x}, twins e x → ¬stray e

namespace Pairing

/-- No endpoints at all. -/
def empty : Pairing where
  twins _ _ := False
  stray _ := False
  left_unique h := h.elim
  right_unique h := h.elim
  not_stray h := h.elim

/-- The larger pairing knows what the first one does, and of the endpoints that the stores have
already no twins beside. -/
structure Extends (pairing : Pairing) (store bare : Store) (larger : Pairing) : Prop where
  twins : ∀ {e x}, pairing.twins e x → larger.twins e x
  stray : ∀ {e}, pairing.stray e → larger.stray e
  of_twins : ∀ {e x}, larger.twins e x → pairing.twins e x ∨ ¬store.Has e ∧ ¬bare.Has x

theorem Extends.refl (pairing : Pairing) (store bare : Store) :
    pairing.Extends store bare pairing := ⟨id, id, .inl⟩

/-- One more pair of twins. -/
def withTwins (pairing : Pairing) (e x : EndpointId) (hleft : ∀ y, ¬pairing.twins e y)
    (hright : ∀ d, ¬pairing.twins d x) (hstray : ¬pairing.stray e) : Pairing where
  twins d y := pairing.twins d y ∨ d = e ∧ y = x
  stray := pairing.stray
  left_unique := by
    rintro d d' y (h | ⟨rfl, rfl⟩) (h' | ⟨rfl, hy⟩)
    · exact pairing.left_unique h h'
    · exact absurd (hy ▸ h) (hright d)
    · exact absurd h' (hright d')
    · rfl
  right_unique := by
    rintro d y y' (h | ⟨rfl, rfl⟩) (h' | ⟨hd, rfl⟩)
    · exact pairing.right_unique h h'
    · exact absurd (hd ▸ h) (hleft y)
    · exact absurd h' (hleft y')
    · rfl
  not_stray := by
    rintro d y (h | ⟨rfl, rfl⟩)
    · exact pairing.not_stray h
    · exact hstray

/-- One more stray. -/
def withStray (pairing : Pairing) (e : EndpointId) (hleft : ∀ y, ¬pairing.twins e y) : Pairing where
  twins := pairing.twins
  stray d := pairing.stray d ∨ d = e
  left_unique := pairing.left_unique
  right_unique := pairing.right_unique
  not_stray := by
    rintro d y h (hd | rfl)
    · exact pairing.not_stray h hd
    · exact hleft y h

/-- The bindings are of one name, which is another one, and to twins. -/
def BindsTwins (pairing : Pairing) (n : Name) (binding binding' : Binding) : Prop :=
  binding.1 ≠ n ∧ binding.1 = binding'.1 ∧ pairing.twins binding.2 binding'.2

/-- The binding is of the name and to a stray. -/
def BindsStray (pairing : Pairing) (n : Name) (binding : Binding) : Prop :=
  binding.1 = n ∧ pairing.stray binding.2

end Pairing

/-! ### Bindings side by side -/

namespace Beside

variable {n name : Name} {pairing : Pairing} {list list' : List Binding} {e x : EndpointId}

theorem names (h : Beside (pairing.BindsTwins n) (pairing.BindsStray n) list list') :
    (list.map Prod.fst).filter (· ≠ n) = list'.map Prod.fst := by
  induction h with
  | nil => rfl
  | @cons a b _ _ h _ ih =>
    rw [List.map_cons, List.map_cons, List.filter_cons, if_pos (by simpa using h.1), ih, h.2.1]
  | @skip a _ _ h _ ih =>
    rw [List.map_cons, List.filter_cons, if_neg (by simpa using h.1), ih]

theorem lookup (h : Beside (pairing.BindsTwins n) (pairing.BindsStray n) list list')
    (hname : name ≠ n) :
    Option.Rel pairing.twins ((list.find? fun binding => binding.1 = name).map Prod.snd)
      ((list'.find? fun binding => binding.1 = name).map Prod.snd) := by
  induction h with
  | nil => exact .none
  | @cons a b _ _ h _ ih =>
    by_cases ha : a.1 = name
    · rw [List.find?_cons_of_pos (by simpa using ha),
        List.find?_cons_of_pos (by simpa using h.2.1.symm.trans ha)]
      exact .some h.2.2
    · rw [List.find?_cons_of_neg (by simpa using ha),
        List.find?_cons_of_neg (by simpa using fun hb => ha (h.2.1.trans hb))]
      exact ih
  | @skip a _ _ h _ ih =>
    rw [List.find?_cons_of_neg (by simpa using fun ha => hname (ha.symm.trans h.1))]
    exact ih

theorem put (h : Beside (pairing.BindsTwins n) (pairing.BindsStray n) list list')
    (hasc : list.Pairwise fun a b => a.1 < b.1) (hname : name ≠ n) (htwins : pairing.twins e x) :
    Beside (pairing.BindsTwins n) (pairing.BindsStray n) (Registry.put name e list)
      (Registry.put name x list') := by
  have hnew : pairing.BindsTwins n (name, e) (name, x) := ⟨hname, rfl, htwins⟩
  induction h with
  | nil => exact .cons hnew .nil
  | @cons a b _ _ h hrest ih =>
    unfold Registry.put
    rw [← h.2.1]
    split
    · exact .cons hnew (.cons h hrest)
    · split
      · exact .cons hnew hrest
      · exact .cons h (ih (List.pairwise_cons.1 hasc).2)
  | @skip a _ list' h hrest ih =>
    obtain ⟨hfirst, hasc⟩ := List.pairwise_cons.1 hasc
    rw [Registry.put]
    split
    · rename_i hlt
      -- whatever is bound in the second list comes after the hidden name
      have hput : Registry.put name x list' = (name, x) :: list' := by
        cases list' with
        | nil => rfl
        | cons b rest =>
          obtain ⟨c, hc, hcb⟩ := hrest.exists_of_mem List.mem_cons_self
          rw [Registry.put, if_pos (hcb.2.1 ▸ String.lt_trans hlt (hfirst c hc))]
      rw [hput]
      exact .cons hnew (.skip h hrest)
    · rw [if_neg fun ha => hname (ha.symm.trans h.1)]
      exact .skip h (ih hasc)

/-- That the name is bound to a stray shows only in the first list. -/
theorem put_stray (h : Beside (pairing.BindsTwins n) (pairing.BindsStray n) list list')
    (hstray : pairing.stray e) :
    Beside (pairing.BindsTwins n) (pairing.BindsStray n) (Registry.put n e list) list' := by
  have hnew : pairing.BindsStray n (n, e) := ⟨rfl, hstray⟩
  induction h with
  | nil => exact .skip hnew .nil
  | cons h hrest ih =>
    rw [Registry.put]
    split
    · exact .skip hnew (.cons h hrest)
    · rw [if_neg h.1]
      exact .cons h ih
  | skip h hrest ih =>
    rw [Registry.put, if_neg (h.1 ▸ Name.lt_irrefl _), if_pos h.1]
    exact .skip hnew hrest

end Beside

/-! ### Stores -/

/-- The second store is the first one without the endpoints of the name's listeners. -/
structure Store.Mirrors (n : Name) (pairing : Pairing) (store bare : Store) : Prop where
  has : ∀ {e x}, pairing.twins e x → store.Has e ∧ bare.Has x
  has_stray : ∀ {e}, pairing.stray e → store.Has e
  endpoint_eq : ∀ {e x}, pairing.twins e x → store.endpoint e = bare.endpoint x
  bindings : Beside (pairing.BindsTwins n) (pairing.BindsStray n) store.registry.bindings
    bare.registry.bindings
  inbounds_eq : store.inbounds = bare.inbounds
  stopped_eq : store.stopped = bare.stopped

namespace Store.Mirrors

variable {n name : Name} {pairing : Pairing} {store bare : Store} {e x : EndpointId}

theorem empty (n : Name) : Store.empty.Mirrors n .empty .empty where
  has h := h.elim
  has_stray h := h.elim
  endpoint_eq h := h.elim
  bindings := .nil
  inbounds_eq := rfl
  stopped_eq := rfl

variable (h : store.Mirrors n pairing bare)
include h

theorem names_eq : store.registry.names.filter (· ≠ n) = bare.registry.names := h.bindings.names

/-- Another name is held by twins or by nobody. -/
theorem lookup (hname : name ≠ n) :
    Option.Rel pairing.twins (store.registry.lookup name) (bare.registry.lookup name) :=
  h.bindings.lookup hname

/-- The name itself is held by a stray or by nobody. -/
theorem stray_of_binds (hb : store.Binds n e) : pairing.stray e := by
  rcases h.bindings.of_mem (Registry.mem_bindings_iff.2 hb) with hstray | ⟨_, _, hne, _⟩
  · exact hstray.2
  · exact absurd rfl hne

/-- Twins hold the same names. -/
theorem binds_iff (hname : name ≠ n) (htwins : pairing.twins e x) :
    store.Binds name e ↔ bare.Binds name x := by
  have hlookup := h.lookup hname
  unfold Binds
  generalize store.registry.lookup name = holder at hlookup ⊢
  generalize bare.registry.lookup name = holder' at hlookup ⊢
  cases hlookup with
  | none => simp
  | @some d y hd =>
    rw [Option.some_inj, Option.some_inj]
    refine ⟨fun heq => pairing.right_unique (heq ▸ hd) htwins, fun heq => ?_⟩
    exact pairing.left_unique (heq ▸ hd) htwins

/-! #### Changes -/

theorem update (htwins : pairing.twins e x) (f : Endpoint → Endpoint) :
    (store.update e f).Mirrors n pairing (bare.update x f) where
  has hd := ⟨has_update.2 (h.has hd).1, has_update.2 (h.has hd).2⟩
  has_stray hd := has_update.2 (h.has_stray hd)
  endpoint_eq {d y} hd := by
    by_cases hde : d = e
    · have hyx : y = x := pairing.right_unique (hde ▸ hd) htwins
      rw [hde, hyx, endpoint_update_self f (h.has htwins).1,
        endpoint_update_self f (h.has htwins).2, h.endpoint_eq htwins]
    · have hyx : y ≠ x := fun hyx => hde (pairing.left_unique (hyx ▸ hd) htwins)
      rw [endpoint_update_of_ne f hde, endpoint_update_of_ne f hyx, h.endpoint_eq hd]
  bindings := h.bindings
  inbounds_eq := h.inbounds_eq
  stopped_eq := h.stopped_eq

theorem update_stray (hstray : pairing.stray e) (f : Endpoint → Endpoint) :
    (store.update e f).Mirrors n pairing bare where
  has hd := ⟨has_update.2 (h.has hd).1, (h.has hd).2⟩
  has_stray hd := has_update.2 (h.has_stray hd)
  endpoint_eq {d y} hd := by
    have hde : d ≠ e := fun hde => pairing.not_stray hd (hde ▸ hstray)
    rw [endpoint_update_of_ne f hde, h.endpoint_eq hd]
  bindings := h.bindings
  inbounds_eq := h.inbounds_eq
  stopped_eq := h.stopped_eq

theorem withRegistry {registry registry' : Registry}
    (hbindings : Beside (pairing.BindsTwins n) (pairing.BindsStray n) registry.bindings
      registry'.bindings) :
    ({ store with registry } : Store).Mirrors n pairing { bare with registry := registry' } where
  has := h.has
  has_stray := h.has_stray
  endpoint_eq := h.endpoint_eq
  bindings := hbindings
  inbounds_eq := h.inbounds_eq
  stopped_eq := h.stopped_eq

/-- Twins are registered under another name, and supersede twins. -/
theorem register (hname : name ≠ n) (htwins : pairing.twins e x) :
    Option.Rel pairing.twins (store.registry.register name e).1 (bare.registry.register name x).1 ∧
      ({ store with registry := (store.registry.register name e).2 } : Store).Mirrors n pairing
        { bare with registry := (bare.registry.register name x).2 } := by
  refine ⟨?_, h.withRegistry (h.bindings.put store.registry.ascending hname htwins)⟩
  have hlookup := h.lookup hname
  rw [Registry.register_fst, Registry.register_fst]
  generalize store.registry.lookup name = holder at hlookup ⊢
  generalize bare.registry.lookup name = holder' at hlookup ⊢
  cases hlookup with
  | none => exact .none
  | @some d y hd =>
    have hsame : d = e ↔ y = x :=
      ⟨fun heq => pairing.right_unique (heq ▸ hd) htwins,
        fun heq => pairing.left_unique (heq ▸ hd) htwins⟩
    rw [Option.filter_some, Option.filter_some]
    by_cases hde : d = e
    · rw [if_neg (by simpa using hde), if_neg (by simpa using hsame.1 hde)]
      exact .none
    · rw [if_pos (by simpa using hde), if_pos (by simpa using fun hyx => hde (hsame.2 hyx))]
      exact .some hd

/-- A stray is registered under the name, and supersedes a stray. -/
theorem register_stray (hstray : pairing.stray e) :
    (∀ d ∈ (store.registry.register n e).1, pairing.stray d) ∧
      ({ store with registry := (store.registry.register n e).2 } : Store).Mirrors n pairing bare :=
  ⟨fun _ hd => h.stray_of_binds (Option.filter_eq_some_iff.1 hd).1,
    h.withRegistry (h.bindings.put_stray hstray)⟩

theorem removeIfCurrent (hname : name ≠ n) (htwins : pairing.twins e x) :
    (store.registry.removeIfCurrent name e).1 = (bare.registry.removeIfCurrent name x).1 ∧
      ({ store with registry := (store.registry.removeIfCurrent name e).2 } : Store).Mirrors n
        pairing { bare with registry := (bare.registry.removeIfCurrent name x).2 } := by
  have hiff : store.registry.lookup name = some e ↔ bare.registry.lookup name = some x :=
    h.binds_iff hname htwins
  unfold Registry.removeIfCurrent
  by_cases hb : store.registry.lookup name = some e
  · rw [if_pos hb, if_pos (hiff.1 hb)]
    refine ⟨rfl, h.withRegistry (h.bindings.filter fun binding binding' hboth => ?_)⟩
    rw [hboth.2.1]
  · rw [if_neg hb, if_neg fun hb' => hb (hiff.2 hb')]
    exact ⟨rfl, h⟩

theorem removeIfCurrent_stray (e : EndpointId) :
    ({ store with registry := (store.registry.removeIfCurrent n e).2 } : Store).Mirrors n
      pairing bare := by
  unfold Registry.removeIfCurrent
  split
  · exact h.withRegistry (h.bindings.filter_left fun _ _ hboth => by simpa using hboth.1)
  · exact h

theorem updateInbound (i : InboundId) (f : Inbound → Inbound) :
    (store.updateInbound i f).Mirrors n pairing (bare.updateInbound i f) where
  has := h.has
  has_stray := h.has_stray
  endpoint_eq := h.endpoint_eq
  bindings := h.bindings
  inbounds_eq := congrArg (Array.modify · i.index f) h.inbounds_eq
  stopped_eq := h.stopped_eq

theorem newInbound : store.newInbound.1 = bare.newInbound.1 ∧
    store.newInbound.2.Mirrors n pairing bare.newInbound.2 where
  left := congrArg (fun inbounds : Array Inbound => InboundId.mk inbounds.size) h.inbounds_eq
  right :=
    { has := h.has
      has_stray := h.has_stray
      endpoint_eq := h.endpoint_eq
      bindings := h.bindings
      inbounds_eq := congrArg (fun inbounds : Array Inbound => inbounds.push .new) h.inbounds_eq
      stopped_eq := h.stopped_eq }

theorem inbound_eq (i : InboundId) : store.inbound i = bare.inbound i := by
  rw [inbound, h.inbounds_eq, inbound]

theorem stop : ({ store with stopped := true } : Store).Mirrors n pairing
    { bare with stopped := true } where
  has := h.has
  has_stray := h.has_stray
  endpoint_eq := h.endpoint_eq
  bindings := h.bindings
  inbounds_eq := h.inbounds_eq
  stopped_eq := rfl

/-! #### New endpoints -/

theorem exists_twins (capacity : Nat) :
    ∃ larger : Pairing, pairing.Extends store bare larger ∧
      larger.twins (store.newEndpoint capacity).1 (bare.newEndpoint capacity).1 ∧
      (store.newEndpoint capacity).2.Mirrors n larger (bare.newEndpoint capacity).2 := by
  have hleft : ∀ y, ¬pairing.twins (store.newEndpoint capacity).1 y :=
    fun y hy => store.not_has_newEndpoint capacity (h.has hy).1
  have hright : ∀ d, ¬pairing.twins d (bare.newEndpoint capacity).1 :=
    fun d hd => bare.not_has_newEndpoint capacity (h.has hd).2
  have hstray : ¬pairing.stray (store.newEndpoint capacity).1 :=
    fun hs => store.not_has_newEndpoint capacity (h.has_stray hs)
  have hfresh : ¬store.Has (store.newEndpoint capacity).1 ∧
      ¬bare.Has (bare.newEndpoint capacity).1 :=
    ⟨store.not_has_newEndpoint capacity, bare.not_has_newEndpoint capacity⟩
  refine ⟨pairing.withTwins _ _ hleft hright hstray, ⟨.inl, id, ?_⟩, .inr ⟨rfl, rfl⟩, ?_⟩
  · rintro d y (hd | ⟨rfl, rfl⟩)
    · exact .inl hd
    · exact .inr hfresh
  refine ⟨?_, fun hs => has_newEndpoint.2 (.inl (h.has_stray hs)), ?_, ?_, h.inbounds_eq,
    h.stopped_eq⟩
  · rintro d y (hd | ⟨rfl, rfl⟩)
    · exact ⟨has_newEndpoint.2 (.inl (h.has hd).1), has_newEndpoint.2 (.inl (h.has hd).2)⟩
    · exact ⟨has_newEndpoint.2 (.inr rfl), has_newEndpoint.2 (.inr rfl)⟩
  · rintro d y (hd | ⟨rfl, rfl⟩)
    · rw [endpoint_newEndpoint_of_ne _ _ fun heq => hleft y (heq ▸ hd),
        endpoint_newEndpoint_of_ne _ _ fun heq => hright d (heq ▸ hd), h.endpoint_eq hd]
    · rw [endpoint_newEndpoint_self, endpoint_newEndpoint_self]
  · exact h.bindings.mono (fun _ _ hb => ⟨hb.1, hb.2.1, .inl hb.2.2⟩) fun _ hb => hb

/-- A new endpoint of the first store alone is a stray. -/
theorem exists_stray (capacity : Nat) :
    ∃ larger : Pairing, pairing.Extends store bare larger ∧
      larger.stray (store.newEndpoint capacity).1 ∧
      (store.newEndpoint capacity).2.Mirrors n larger bare := by
  have hleft : ∀ y, ¬pairing.twins (store.newEndpoint capacity).1 y :=
    fun y hy => store.not_has_newEndpoint capacity (h.has hy).1
  refine ⟨pairing.withStray _ hleft, ⟨id, .inl, .inl⟩, .inr rfl, ?_⟩
  refine ⟨fun hd => ⟨has_newEndpoint.2 (.inl (h.has hd).1), (h.has hd).2⟩, ?_, ?_, ?_,
    h.inbounds_eq, h.stopped_eq⟩
  · rintro d (hd | rfl)
    · exact has_newEndpoint.2 (.inl (h.has_stray hd))
    · exact has_newEndpoint.2 (.inr rfl)
  · intro d y hd
    rw [endpoint_newEndpoint_of_ne _ _ fun heq => hleft y (heq ▸ hd), h.endpoint_eq hd]
  · exact h.bindings.mono (fun _ _ hb => hb) fun _ hb => ⟨hb.1, .inl hb.2⟩

end Store.Mirrors

end BroadcastChat
