/-
# Order per sender

An endpoint gets the messages of one sender without a gap: from the first one
that it accepts on, every one that the sender hands out, each once and in
order, until it is missed or refuses one, and none after that. This is so for
any number of tasks whose actions interleave in any order, with sessions that
come and go, queues that are full and drain again, and registries that change
while they are listed. And nobody gets messages under the name it is
registered under itself.

Key definitions: `Watch.GoesBy`.
Key theorems: `Watch.Sound.goesBy_unique`, `Watch.Sound.not_took`, `Watch.Sound.exists_block`,
`per_sender_order`.
-/
import BroadcastChat.Proofs.Tracks

namespace BroadcastChat

namespace Watch

/-- The task registered an endpoint under the name, or spoke under it. -/
def GoesBy (watch : Watch) (task : Nat) (name : Name) : Prop :=
  (∃ endpoint, Registered ((watch.doings task).map Record.event) name endpoint) ∨
    ∃ d ∈ watch.spoken task, d.sender = name

variable {watch : Watch} {task : Nat} {e : EndpointId}

/-! ### Names -/

theorem Sound.tracked (h : watch.Sound) (hdid : watch.doings task ≠ []) :
    ∃ current, watch.Tracks task current := by
  cases hget : watch.world.tasks[task]? with
  | none => exact absurd (h.doings_eq (List.getElem?_eq_none_iff.1 hget)) hdid
  | some current => exact ⟨current, h.tracks task current hget⟩

theorem doings_of_mem_words {word : Word} (h : word ∈ watch.words task) :
    watch.doings task ≠ [] := by
  intro hnil
  rw [words, hnil] at h
  cases h

theorem said_of_mem_spoken {d : Delivery} (h : d ∈ watch.spoken task) :
    .said d ∈ watch.words task := by
  obtain ⟨word, hword, hsaid⟩ := List.mem_filterMap.1 h
  cases word with
  | said d' =>
    cases hsaid
    exact hword
  | took x d' => cases hsaid

/-- Whatever name a task goes by is one that it has used. -/
theorem Sound.mem_names (h : watch.Sound) {name : Name} (hname : watch.GoesBy task name) :
    name ∈ watch.names task := by
  rcases hname with ⟨x, hr⟩ | ⟨d, hd, rfl⟩
  · obtain ⟨event, hevent, hbinding⟩ := List.mem_filterMap.1 hr
    obtain ⟨record, hrecord, rfl⟩ := List.mem_map.1 hevent
    refine List.mem_filterMap.2 ⟨record, hrecord, ?_⟩
    obtain ⟨owner, call, past, action, answer⟩ := record
    cases action with
    | register n endpoint =>
      cases hbinding
      rfl
    | _ => cases hbinding
  · have hsaid := said_of_mem_spoken hd
    obtain ⟨current, htracks⟩ := h.tracked (doings_of_mem_words hsaid)
    exact htracks.sender hsaid

/-- **A task goes by one name.** -/
theorem Sound.goesBy_unique (h : watch.Sound) {n m : Name} (hn : watch.GoesBy task n)
    (hm : watch.GoesBy task m) : n = m := by
  have hused := h.mem_names hn
  have hdid : watch.doings task ≠ [] := by
    intro hnil
    rw [names, hnil] at hused
    cases hused
  obtain ⟨current, htracks⟩ := h.tracked hdid
  exact htracks.named.eq hused (h.mem_names hm)

/-- Whoever is registered under the task's name accepts nothing from it. -/
theorem Sound.not_took (h : watch.Sound) {name : Name} (hname : watch.GoesBy task name)
    (hr : Registered watch.world.log name e) (d : Delivery) :
    .took e d ∉ watch.words task := by
  intro htook
  obtain ⟨current, htracks⟩ := h.tracked (doings_of_mem_words htook)
  obtain ⟨n, hregistered, m, hm, hne⟩ := htracks.apart htook
  have hsame : n = name := h.books.registered_unique hregistered hr
  have hused : m = name := htracks.named.eq hm (h.mem_names hname)
  exact hne (hused.trans hsame.symm)

/-! ### Deliveries -/

theorem bind_took (event : Event) (delivery? : Option Delivery) (e : EndpointId) :
    (event.word? delivery?).bind (Word.took? e) = event.accepted? e := by
  obtain ⟨action, answer⟩ := event
  cases action with
  | snapshotExcept n => cases delivery? <;> rfl
  | deliver x d => cases answer <;> rfl
  | _ => rfl

theorem accepted_eq (watch : Watch) (task : Nat) (e : EndpointId) :
    watch.accepted task e = (watch.words task).filterMap (Word.took? e) := by
  rw [accepted, takings, words, doings, List.filterMap_filterMap, List.filterMap_filterMap,
    List.filterMap_filter]
  refine List.filterMap_congr fun record _ => ?_
  rw [bind_took]
  by_cases howner : record.task = task
  · rw [if_pos (decide_eq_true howner)]
    cases record.event.accepted? e with
    | none => rfl
    | some d => exact if_pos howner
  · rw [if_neg (by simpa using howner)]
    cases record.event.accepted? e with
    | none => rfl
    | some d => exact if_neg howner

/-- Between a task and an endpoint it stands as `Passage` says. -/
theorem Sound.exists_block (h : watch.Sound) (task : Nat) (e : EndpointId) :
    ∃ before block after : List Delivery, (watch.words task).filter (Word.concerns e) =
      before.map .said ++ block.flatMap (Word.exchange e) ++ after.map .said := by
  by_cases hdid : watch.doings task = []
  · refine ⟨[], [], [], ?_⟩
    rw [words, hdid]
    rfl
  · obtain ⟨current, htracks⟩ := h.tracked hdid
    exact (htracks.passage e).exists_block

end Watch

/-- **Order per sender.** However the actions of any number of tasks interleave, and whatever the
listings of a registry give that others change meanwhile: what an endpoint has accepted, each
delivery with the task that it comes from, is in order what its stream has yielded and what is still
unread. What it accepted from one task is one block of what that task handed out, every delivery of
the block once, in order, and before the task began the next one. And the block is empty if the
endpoint is registered under the task's name, of which it has one. -/
theorem per_sender_order (settings : HubSettings) (moves : List Watch.Move) (task : Nat)
    (e : EndpointId) :
    let watch := (Watch.new settings).run moves
    (watch.takings e).map Prod.snd =
      watch.yielded e ++ (watch.world.store.endpoint e).unread ∧
    (∃ before block after : List Delivery,
      watch.spoken task = before ++ block ++ after ∧ watch.accepted task e = block ∧
      (watch.words task).filter (Word.concerns e) =
        before.map .said ++ block.flatMap (fun d => [.said d, .took e d]) ++ after.map .said) ∧
    (∀ n m, watch.GoesBy task n → watch.GoesBy task m → n = m) ∧
    ∀ n, watch.GoesBy task n → Registered watch.world.log n e → watch.accepted task e = [] := by
  intro watch
  have hsound : watch.Sound := Watch.sound_run settings moves
  refine ⟨(hsound.streams e).symm, ?_, fun n m hn hm => hsound.goesBy_unique hn hm, ?_⟩
  · obtain ⟨before, block, after, hwords⟩ := hsound.exists_block task e
    refine ⟨before, block, after, ?_, ?_, hwords⟩
    · calc watch.spoken task
          = ((watch.words task).filter (Word.concerns e)).filterMap Word.said? :=
            (Word.filterMap_said_filter _).symm
        _ = before ++ block ++ after := by
            rw [hwords, List.filterMap_append, List.filterMap_append, Word.filterMap_said_map,
              Word.filterMap_said_exchange, Word.filterMap_said_map]
    · calc watch.accepted task e
          = (watch.words task).filterMap (Word.took? e) := watch.accepted_eq task e
        _ = ((watch.words task).filter (Word.concerns e)).filterMap (Word.took? e) :=
            (Word.filterMap_took_filter _).symm
        _ = block := by
            rw [hwords, List.filterMap_append, List.filterMap_append, Word.filterMap_took_map,
              Word.filterMap_took_exchange, Word.filterMap_took_map, List.nil_append,
              List.append_nil]
  · intro n hname hr
    rw [watch.accepted_eq]
    refine List.filterMap_eq_nil_iff.2 fun word hword => ?_
    cases word with
    | said d => rfl
    | took x d =>
      refine if_neg ?_
      rintro rfl
      exact hsound.not_took hname hr d hword

namespace Sample

/-- Some actions of a task at one time. -/
def acts (task : Nat) (time : Int64) (count : Nat) : List Watch.Move :=
  List.replicate count (.choose (.act task ⟨time⟩))

/-- Alice says something and is about to list her recipients. -/
def speaking (time : Int64) : List Watch.Move :=
  [.choose (.arrive ⟨0⟩ (.message ⟨alice, .empty⟩)), .choose (.wake 0)] ++ acts 0 time 4

/-- What Alice says, with its stamp. -/
def saying (time : Int64) : Delivery := ⟨⟨alice, .empty⟩, ⟨time⟩⟩

/-- Alice greets before Bob is there, misses him while he registers, reaches him twice, and speaks
once more after he has left. -/
def overheard : List Watch.Move :=
  [.choose .connect] ++ acts 0 0 2 ++ speaking 1 ++ acts 0 1 2 ++
    [.choose (.ask (.openListener bob))] ++ acts 1 2 2 ++
    speaking 3 ++ acts 1 3 1 ++ [.list 0 []] ++ acts 1 3 1 ++
    speaking 4 ++ acts 0 4 2 ++ speaking 5 ++ acts 0 5 2 ++
    [.choose (.letGo 1)] ++ acts 1 6 1 ++ speaking 7 ++ acts 0 7 1 ++ [.choose (.read ⟨1⟩)]

end Sample

/-- Bob gets what Alice says while he is there, and Alice's own endpoint gets nothing of it. -/
theorem per_sender_order_overheard :
    let watch := (Watch.new {}).run Sample.overheard
    watch.spoken 0 = [1, 3, 4, 5, 7].map Sample.saying ∧
      watch.accepted 0 ⟨1⟩ = [4, 5].map Sample.saying ∧ watch.yielded ⟨1⟩ = [Sample.saying 4] ∧
      (∃ before after, watch.spoken 0 = before ++ [4, 5].map Sample.saying ++ after) ∧
      watch.accepted 0 ⟨0⟩ = [] := by
  intro watch
  have hspoken : watch.spoken 0 = [1, 3, 4, 5, 7].map Sample.saying := by decide +kernel
  have haccepted : watch.accepted 0 ⟨1⟩ = [4, 5].map Sample.saying := by decide +kernel
  have hyielded : watch.yielded ⟨1⟩ = [Sample.saying 4] := by decide +kernel
  have hregistered : Registered watch.world.log Sample.alice ⟨0⟩ := by decide +kernel
  have hname : watch.GoesBy 0 Sample.alice := .inl ⟨⟨0⟩, by decide +kernel⟩
  refine ⟨hspoken, haccepted, hyielded, ?_, ?_⟩
  · obtain ⟨_, ⟨before, block, after, hall, hblock, _⟩, _⟩ :=
      per_sender_order {} Sample.overheard 0 ⟨1⟩
    have hsame : block = [4, 5].map Sample.saying := hblock.symm.trans haccepted
    rw [hsame] at hall
    exact ⟨before, after, hall⟩
  · exact (per_sender_order {} Sample.overheard 0 ⟨0⟩).2.2.2 _ hname hregistered

end BroadcastChat
