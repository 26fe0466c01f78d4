/-
# How a task may act

A task may close only what it owes or owns, register only what it made, and
remove a binding only after a delivery failed, after it saw the endpoint
closed on behalf of a sender without a session, or when it lets go of its own.
`Entry` lists these rules, one for each action: which of the task's notes the
action takes and which it writes. A program behaves (`Program.Keeps`) if each
of its actions follows a rule whatever the answers to those before, and ends
with notes of a given form. Then the books stay right, performed at once
(`Books.run`) as well as action by action between those of others
(`Books.perform`), since what the others noted is only added.

Key definitions: `Entry`, `Program.Keeps`.
Key theorems: `Books.perform`, `Program.Keeps.bind`, `Books.run`.
-/
import BroadcastChat.Proofs.Bookkeeping

namespace BroadcastChat

/-- Whether nothing more will be read after this. -/
def Inbound.Next.isEnding : Inbound.Next → Bool
  | .arrival (.message _) | .waiting => false
  | .arrival .cancelled | .arrival (.failed _) | .ended => true

/-- The task with these notes may perform the action, and with this answer has those notes. -/
inductive Entry : Multiset Note → (action : Action) → action.Answer → Multiset Note → Prop where
  | create {own c e} : Entry own (.create c) e (.made e ::ₘ own)
  | register {own n e superseded} :
      Entry (.made e ::ₘ own) (.register n e) superseded (debts superseded + .held n e ::ₘ own)
  /-- A recipient that did not take a delivery goes. -/
  | prune {own n e removed} :
      Entry (.refused n e ::ₘ own) (.removeIfCurrent n e) removed (.owes e ::ₘ own)
  /-- A binding whose endpoint is closed goes. -/
  | tidy {own n e removed} : Entry (.seenClosed n e ::ₘ own) (.removeIfCurrent n e) removed own
  /-- The owner goes. -/
  | release {own n e removed} : Entry (.parting ::ₘ .held n e ::ₘ own) (.removeIfCurrent n e)
      removed (.owes e ::ₘ .retired e ::ₘ own)
  | leave {own n e removed} : Entry (.parting ::ₘ .settled n e ::ₘ own) (.removeIfCurrent n e)
      removed (.owes e ::ₘ .retired e ::ₘ own)
  | absent {own n} : Entry own (.lookup n) none own
  | found {own n e} : Entry own (.lookup n) (some e) (.known n e ::ₘ own)
  | snapshot {own n} {bindings : List Binding} : Entry own (.snapshotExcept n) bindings
      (Multiset.map (fun b : Binding => .known b.1 b.2) bindings + own)
  | drain {own} {bindings : List Binding} : Entry (.halted ::ₘ own) .drain bindings
      (Multiset.map (fun b : Binding => .owes b.2) bindings + .swept ::ₘ own)
  | taken {own n e d} : Entry (.known n e ::ₘ own) (.deliver e d) (.ok ()) own
  | refuse {own n e d r} : Entry (.known n e ::ₘ own) (.deliver e d) (.error r)
      (.refused n e ::ₘ own)
  | pay {own e wasOpen} : Entry (.owes e ::ₘ own) (.close e) wasOpen own
  | discard {own e wasOpen} : Entry (.made e ::ₘ own) (.close e) wasOpen (.retired e ::ₘ own)
  | closeAgain {own e wasOpen} :
      Entry (.retired e ::ₘ own) (.close e) wasOpen (.retired e ::ₘ own)
  | stillOpen {own n e} : Entry (.known n e ::ₘ own) (.isClosed e) false own
  | foundClosed {own n e} : Entry (.asking ::ₘ .known n e ::ₘ own) (.isClosed e) true
      (.asking ::ₘ .seenClosed n e ::ₘ own)
  /-- The owner learns that it must go. -/
  | evicted {own : Multiset Note} {note : Note} {e} (h : note.owned? = some e) :
      Entry (note ::ₘ own) (.isClosed e) true (.parting ::ₘ note ::ₘ own)
  | intact {own e} : Entry own (.isClosed e) false own
  | drop {own e} : Entry (.retired e ::ₘ own) (.drop e) () (.retired e ::ₘ own)
  | beginWait {own e} : Entry own (.beginWait e) () own
  | endWait {own e} : Entry own (.endWait e) () own
  | received {own i next} : Entry own (.receive i) next own
  | ending {own i} {next : Inbound.Next} (h : next.isEnding = true) :
      Entry own (.receive i) next (.parting ::ₘ own)
  | looked {own stopped} : Entry own .isStopped stopped own
  /-- The holder is in time for a sweep. -/
  | settle {own n e} : Entry (.held n e ::ₘ own) .isStopped false (.settled n e ::ₘ own)
  | stopping {own} : Entry own .isStopped true (.parting ::ₘ own)
  | stop {own} : Entry own .stop () (.halted ::ₘ own)
  | now {own t} : Entry own .now t own

variable {time : Timestamp} {store : Store} {log : List Event}

/-! ### The rules keep the books -/

theorem known_of_bindings {notes : Multiset Note} (h : Books store log notes)
    {bindings : List Binding} (hb : ∀ b ∈ bindings, Registered log b.1 b.2) :
    Books store log (Multiset.map (fun b : Binding => .known b.1 b.2) bindings + notes) := by
  induction bindings with
  | nil => simpa using h
  | cons b rest ih =>
    have hrest := ih fun c hc => hb c (List.mem_cons_of_mem _ hc)
    rw [← Multiset.cons_coe, Multiset.map_cons, Multiset.cons_add]
    exact hrest.add rfl (hb b List.mem_cons_self)

/-- A removal of an endpoint that its remover has to close. -/
theorem Books.remove_owing {notes : Multiset Note} {note : Note} {n : Name} {e : EndpointId}
    (h : Books store log (note ::ₘ notes)) (hi : note.Idle) (hr : Registered log n e) :
    BooksAfter time store log (.removeIfCurrent n e) (.owes e ::ₘ notes) := by
  have hrem : BooksAfter time store log (.removeIfCurrent n e) (.owes e ::ₘ note ::ₘ notes) :=
    h.remove hr
  rw [Multiset.cons_swap] at hrem
  exact hrem.forget hi

/-- An owner that lets go. -/
theorem Books.remove_own {notes : Multiset Note} {note : Note} {n : Name} {e : EndpointId}
    (h : Books store log (.parting ::ₘ note ::ₘ notes))
    (hnote : note = .held n e ∨ note = .settled n e) :
    BooksAfter time store log (.removeIfCurrent n e) (.owes e ::ₘ .retired e ::ₘ notes) := by
  have hbooks : Books store log (note ::ₘ notes) := h.forget trivial
  have hr : Registered log n e := by
    have hs := hbooks.sound _ (Multiset.mem_cons_self _ _)
    rcases hnote with rfl | rfl
    · exact hs
    · exact hs.1
  have hrem : BooksAfter time store log (.removeIfCurrent n e) (.owes e ::ₘ note ::ₘ notes) :=
    hbooks.remove hr
  rw [Multiset.cons_swap] at hrem
  rw [Multiset.cons_swap]
  exact Books.retire hnote hrem (hbooks.not_binds_removeIfCurrent hr)

/-- **An action that follows a rule keeps the books**, whatever the others have noted. -/
theorem Books.perform {own own' rest : Multiset Note} {action : Action} {answer : action.Answer}
    (h : Books store log (own + rest)) (he : Entry own action answer own')
    (ha : (action.perform time store).1 = answer) :
    BooksAfter time store log action (own' + rest) := by
  have hquiet : action.Quiet → BooksAfter time store log action (own + rest) := h.quiet
  cases he with
  | create =>
    rw [Multiset.cons_add, ← ha]
    exact h.create
  | register =>
    rw [Multiset.cons_add] at h
    rw [add_assoc, Multiset.cons_add, ← ha]
    exact h.register
  | prune =>
    rw [Multiset.cons_add] at h ⊢
    exact h.remove_owing trivial (h.sound _ (Multiset.mem_cons_self _ _))
  | @tidy _ n e =>
    rw [Multiset.cons_add] at h
    obtain ⟨hr, hc⟩ := h.sound _ (Multiset.mem_cons_self _ _)
    have hrem : BooksAfter time store log (.removeIfCurrent n e) (.owes e ::ₘ (own' + rest)) :=
      h.remove_owing trivial hr
    exact hrem.pay (Action.closed_mono (h.has_registered hr) hc)
  | release =>
    simp only [Multiset.cons_add] at h ⊢
    exact h.remove_own (.inl rfl)
  | leave =>
    simp only [Multiset.cons_add] at h ⊢
    exact h.remove_own (.inr rfl)
  | @found _ n e =>
    rw [Multiset.cons_add]
    have hb : store.Binds n e := ha
    exact (hquiet trivial).add rfl (registered_snoc (h.registered_of_binds hb))
  | @snapshot _ n bindings =>
    rw [add_assoc]
    refine known_of_bindings (hquiet trivial) fun b hb => ?_
    rw [← ha] at hb
    exact registered_snoc (h.registered_of_binds (Registry.mem_snapshotExcept.1 hb).1)
  | @drain own =>
    rw [Multiset.cons_add] at h
    rw [add_assoc, Multiset.cons_add, ← ha, Multiset.add_cons]
    have hs : store.stopped = true := h.sound _ (Multiset.mem_cons_self _ _)
    have hsw : ∀ bindings, Swept (log ++ [⟨.drain, bindings⟩]) :=
      fun _ => swept_append.2 (.inr (swept_singleton.2 rfl))
    have hdrain : BooksAfter time store log .drain (Multiset.map (fun b : Binding => .owes b.2)
        store.registry.bindings + .halted ::ₘ (own + rest)) := h.drain hs
    rw [Multiset.add_cons] at hdrain
    exact (hdrain.tearOut (by simp) (by simp) fun _ => hsw _).add rfl (hsw _)
  | taken =>
    rw [Multiset.cons_add] at hquiet
    exact (hquiet trivial).forget trivial
  | refuse =>
    rw [Multiset.cons_add] at h hquiet ⊢
    have hr := h.sound _ (Multiset.mem_cons_self _ _)
    exact ((hquiet trivial).forget trivial).add rfl (registered_snoc hr)
  | @pay _ e =>
    rw [Multiset.cons_add] at h
    obtain ⟨⟨n, hr⟩, hb⟩ := h.sound _ (Multiset.mem_cons_self _ _)
    have hm : .made e ∉ .owes e ::ₘ (own' + rest) := fun hm => (h.sound _ hm).2.2 n hr
    have hclose : BooksAfter time store log (.close e) (.owes e ::ₘ (own' + rest)) :=
      h.close hm hb
    exact hclose.pay (Books.closed_close (h.has_registered hr))
  | discard =>
    rw [Multiset.cons_add] at h ⊢
    exact h.close_made
  | @closeAgain own e =>
    rw [Multiset.cons_add] at h ⊢
    obtain ⟨_, hb⟩ := h.sound _ (Multiset.mem_cons_self _ _)
    have hm : .made e ∉ .retired e ::ₘ (own + rest) := by
      intro hm
      rcases Multiset.mem_cons.1 hm with heq | hm
      · cases heq
      · exact h.owned_ne rfl hm rfl rfl rfl
    exact h.close hm hb
  | stillOpen =>
    rw [Multiset.cons_add] at hquiet
    exact (hquiet trivial).forget trivial
  | foundClosed =>
    simp only [Multiset.cons_add] at h hquiet ⊢
    have hr := h.sound _ (Multiset.mem_cons_of_mem (Multiset.mem_cons_self _ _))
    have hq := ((hquiet trivial).forget trivial).forget trivial
    refine (hq.add rfl ?_).add rfl trivial
    exact ⟨registered_snoc hr, ha⟩
  | evicted | ending | stopping =>
    rw [Multiset.cons_add]
    exact (hquiet trivial).add rfl trivial
  | settle =>
    rw [Multiset.cons_add] at hquiet ⊢
    exact (hquiet trivial).settle ha
  | stop =>
    rw [Multiset.cons_add]
    exact h.stop
  | absent | intact | drop | beginWait | endWait | received | looked | now => exact hquiet trivial

/-! ### Programs that follow the rules -/

namespace Program

variable {α β : Type}

/-- Whatever its actions are answered, the program follows the rules from the notes given and
ends with a value and notes as required. -/
def Keeps (ends : α → Multiset Note → Prop) : Program α → Multiset Note → Prop
  | .done value, own => ends value own
  | .step action next, own =>
    ∀ answer, ∃ own', Entry own action answer own' ∧ (next answer).Keeps ends own'

theorem Keeps.mono {ends ends' : α → Multiset Note → Prop} {p : Program α} {own : Multiset Note}
    (h : p.Keeps ends own) (hends : ∀ value notes, ends value notes → ends' value notes) :
    p.Keeps ends' own := by
  induction p generalizing own with
  | done value => exact hends value own h
  | step action next ih =>
    intro answer
    obtain ⟨own', he, hk⟩ := h answer
    exact ⟨own', he, ih answer hk⟩

/-- What a program ends with, the next one may start with. -/
theorem Keeps.bind {ends : β → Multiset Note → Prop} {p : Program α} {k : α → Program β}
    {own : Multiset Note} (h : p.Keeps (fun value notes => (k value).Keeps ends notes) own) :
    (p >>= k).Keeps ends own := by
  induction p generalizing own with
  | done value => exact h
  | step action next ih =>
    intro answer
    obtain ⟨own', he, hk⟩ := h answer
    exact ⟨own', he, ih answer hk⟩

theorem keeps_pure {ends : α → Multiset Note → Prop} {value : α} {own : Multiset Note}
    (h : ends value own) : (pure value : Program α).Keeps ends own := h

theorem keeps_act {ends : α → Multiset Note → Prop} {action : Action}
    {k : action.Answer → Program α} {own : Multiset Note}
    (h : ∀ answer, ∃ own', Entry own action answer own' ∧ (k answer).Keeps ends own') :
    (act action >>= k).Keeps ends own := h

end Program

/-- **A program that follows the rules keeps the books** when it runs without interruption. -/
theorem Books.run {α : Type} {ends : α → Multiset Note → Prop} {p : Program α}
    {own rest : Multiset Note} (h : Books store log (own + rest)) (time : Timestamp)
    (hk : p.Keeps ends own) : ∃ own', ends (p.run time store).1 own' ∧
      Books (p.run time store).2 (log ++ p.trace time store) (own' + rest) := by
  induction p generalizing store log own with
  | done value =>
    refine ⟨own, hk, ?_⟩
    rw [Program.trace, List.append_nil]
    exact h
  | step action next ih =>
    obtain ⟨own', he, hk⟩ := hk (action.perform time store).1
    obtain ⟨own'', hends, hbooks⟩ := ih _ (h.perform he rfl) hk
    refine ⟨own'', hends, ?_⟩
    rw [Program.trace, List.append_cons]
    exact hbooks

end BroadcastChat
