/-
# What a watch keeps track of

At every time of a watch each task uses one name only, whoever is on its round
was registered under another name than that, and with every endpoint it stands
as `Passage` says, where an endpoint is kept (`Watch.Kept`) as long as it is
bound in every registry that the task has seen since its last action, and gone
(`Watch.Gone`) when it is bound in none of them. The reason that nobody who is
gone comes back is that no endpoint is registered twice (`Watch.Onward`).

Key definitions: `World.Task.round`, `World.Task.Named`, `Watch.Onward`, `Watch.Expects`,
`Watch.Kept`, `Watch.Gone`, `Watch.Tracks`, `Watch.Sound`.
Key theorems: `Watch.Tracks.onward`, `Watch.Poised.tracks`, `Watch.Tracks.answered`,
`Watch.Sound.answered`, `Watch.Sound.outside`, `Watch.sound_run`.
-/
import BroadcastChat.Proofs.Watch

namespace BroadcastChat

/-! ### Where a task stands -/

namespace World.Task

/-- How far a task is with its recipients; at rest it has none. -/
def round : World.Task → Round
  | .idle _ => .trying []
  | .busy _ past _ => (Progress.of past).round

/-- What a task hands out. -/
def delivery? (policy : GreetingPolicy) : World.Task → Option Delivery
  | .idle _ => none
  | .busy call past _ => call.delivery? policy (.of past)

/-- What is left of a task's call goes round as it has to. -/
def Proceeds (policy : GreetingPolicy) : World.Task → Prop
  | .idle _ => True
  | .busy call past rest => rest.Follows (call.Proceeds policy) call.Concludes past

/-- All names that the task has used are the one that it will use. -/
def Named (names : List Name) : World.Task → Prop
  | .idle resting => ∃ name?, resting.Keeps name? ∧ ∀ n ∈ names, name? = some n
  | .busy call past _ => ∀ n ∈ names, call.name? (Progress.of past).heard = some n

variable {policy : GreetingPolicy} {call : Call} {past : List Event} {rest : Program Resting}
  {names : List Name}

theorem Named.eq {task : World.Task} (h : task.Named names) {n m : Name} (hn : n ∈ names)
    (hm : m ∈ names) : n = m := by
  cases task with
  | idle resting =>
    obtain ⟨name?, _, hall⟩ := h
    exact Option.some.inj ((hall n hn).symm.trans (hall m hm))
  | busy call past rest => exact Option.some.inj ((h n hn).symm.trans (h m hm))

section

variable (h : rest.Follows (call.Proceeds policy) call.Concludes past)

include h

theorem proceeds_goOn : (goOn call past rest).Proceeds policy := by
  cases rest with
  | done resting => trivial
  | step action next => exact h

theorem round_goOn : (goOn call past rest).round = (Progress.of past).round := by
  cases rest with
  | done resting =>
    obtain ⟨heard, hclear, _⟩ := h
    exact hclear.round_eq.symm
  | step action next => rfl

theorem named_goOn (hn : ∀ n ∈ names, call.name? (Progress.of past).heard = some n) :
    (goOn call past rest).Named names := by
  cases rest with
  | done resting =>
    obtain ⟨heard, hclear, hkeeps⟩ := h
    rw [hclear.heard_eq] at hn
    exact ⟨_, hkeeps, hn⟩
  | step action next => exact hn

theorem passage_goOn {e : EndpointId} {kept gone : Prop} {words : List Word}
    (hp : Passage e (Progress.of past).round (call.delivery? policy (.of past)) kept gone words) :
    Passage e (goOn call past rest).round ((goOn call past rest).delivery? policy) kept gone
      words := by
  cases rest with
  | done resting =>
    obtain ⟨heard, hclear, _⟩ := h
    rw [hclear.round_eq] at hp
    exact hp.between
  | step action next => exact hp

end

end World.Task

theorem Call.name?_or {call : Call} {heard : Option Message} {n : Name}
    (h : call.name? heard = some n) (more : Option Message) :
    call.name? (heard.or more) = some n := by
  cases call with
  | turn session =>
    obtain ⟨endpoint, inbound, state⟩ := session
    cases state with
    | awaitingHello =>
      cases heard with
      | none => cases h
      | some message => exact h
    | active name => exact h
    | closing name outcome => exact h
    | closed outcome => exact h
  | _ => exact h

namespace Watch

variable {watch after : Watch} {task : Nat} {e : EndpointId}

/-! ### Who is kept and who is gone -/

/-- The registry goes on, and the task sees no more of it than there was. -/
structure Onward (watch after : Watch) (task : Nat) : Prop where
  registered : ∀ {n e}, Registered watch.world.log n e → Registered after.world.log n e
  /-- No endpoint is registered twice. -/
  unbound : ∀ {n e}, Registered watch.world.log n e → ¬watch.world.store.Binds n e →
    ¬after.world.store.Binds n e
  seen : ∀ registry ∈ after.seen task,
    registry ∈ watch.seen task ∨ registry = after.world.store.registry
  names : ∀ n ∈ watch.names task, n ∈ after.names task

/-- Somebody who was registered under another name than the task's may be listed by it. -/
def Expects (watch : Watch) (task : Nat) (b : Binding) : Prop :=
  Registered watch.world.log b.1 b.2 ∧ ∃ m ∈ watch.names task, m ≠ b.1

/-- The task goes on listing the endpoint, unless its binding is lost for good. -/
def Kept (watch : Watch) (task : Nat) (e : EndpointId) : Prop :=
  ∃ n, watch.Expects task (n, e) ∧ ∀ registry ∈ watch.seen task, registry.lookup n ≠ some e →
    ¬watch.world.store.Binds n e

/-- The endpoint's binding was lost before the task acted last. -/
def Gone (watch : Watch) (task : Nat) (e : EndpointId) : Prop :=
  ∃ n, Registered watch.world.log n e ∧ ∀ registry ∈ watch.seen task, registry.lookup n ≠ some e

theorem Expects.onward {b : Binding} (h : watch.Expects task b) (ho : Onward watch after task) :
    after.Expects task b := by
  obtain ⟨hr, m, hm, hne⟩ := h
  exact ⟨ho.registered hr, m, ho.names m hm, hne⟩

theorem Kept.onward (h : watch.Kept task e) (ho : Onward watch after task) :
    after.Kept task e := by
  obtain ⟨n, hexpects, hall⟩ := h
  refine ⟨n, hexpects.onward ho, fun registry hm hlost => ?_⟩
  rcases ho.seen registry hm with hm | rfl
  · exact ho.unbound hexpects.1 (hall registry hm hlost)
  · exact hlost

theorem Gone.onward (h : watch.Gone task e) (ho : Onward watch after task)
    (hnow : watch.world.store.registry ∈ watch.seen task) : after.Gone task e := by
  obtain ⟨n, hr, hall⟩ := h
  refine ⟨n, ho.registered hr, fun registry hm => ?_⟩
  rcases ho.seen registry hm with hm | rfl
  · exact hall registry hm
  · exact ho.unbound hr (hall _ hnow)

/-! ### What an answer adds -/

section

variable {call : Call} {past : List Event} {action : Action}
  {next : action.Answer → Program Resting} {answer : action.Answer} {store : Store}

theorem filterMap_one {α β : Type} (f : α → Option β) (a : α) :
    [a].filterMap f = (f a).toList := by
  rw [List.filterMap_eq_flatMap_toList, List.flatMap_singleton]

theorem doings_answered_self :
    (watch.answered task call past next answer store).doings task =
      watch.doings task ++ [⟨task, call, past, ⟨action, answer⟩⟩] := by
  rw [doings, answered, List.filter_append, List.filter_singleton, decide_eq_true rfl]
  rfl

theorem doings_answered_of_ne {other : Nat} (h : task ≠ other) :
    (watch.answered task call past next answer store).doings other = watch.doings other := by
  rw [doings, answered, List.filter_append, List.filter_singleton, decide_eq_false h]
  exact List.append_nil _

theorem words_answered_self :
    (watch.answered task call past next answer store).words task = watch.words task ++
      (Event.word? (call.delivery? watch.world.settings.policy (.of past))
        ⟨action, answer⟩).toList := by
  rw [words, doings_answered_self, List.filterMap_append, filterMap_one]
  rfl

theorem names_answered_self :
    (watch.answered task call past next answer store).names task =
      watch.names task ++ action.name?.toList := by
  rw [names, doings_answered_self, List.filterMap_append, filterMap_one]
  rfl

theorem takings_answered (e : EndpointId) :
    (watch.answered task call past next answer store).takings e = watch.takings e ++
      ((Event.accepted? e ⟨action, answer⟩).map (task, ·)).toList := by
  rw [takings, answered, List.filterMap_append, filterMap_one]
  rfl

theorem seen_answered_self :
    (watch.answered task call past next answer store).seen task = [store.registry] := if_pos rfl

theorem seen_answered_of_ne {other : Nat} (h : other ≠ task) :
    (watch.answered task call past next answer store).seen other =
      watch.seen other ++ [store.registry] := if_neg h

end

/-! ### Every task at every time -/

/-- The task proceeds as it has to, uses one name, and stands with every endpoint as it has to. -/
structure Tracks (watch : Watch) (task : Nat) (current : World.Task) : Prop where
  proceeds : current.Proceeds watch.world.settings.policy
  named : current.Named (watch.names task)
  expected : ∀ b ∈ current.round.recipients, watch.Expects task b
  nodup : current.round.endpoints.Nodup
  passage : ∀ e, Passage e current.round (current.delivery? watch.world.settings.policy)
    (watch.Kept task e) (watch.Gone task e) ((watch.words task).filter (Word.concerns e))
  /-- The task speaks under its name. -/
  sender : ∀ {d}, .said d ∈ watch.words task → d.sender ∈ watch.names task
  /-- Whoever accepted something was registered under another name. -/
  apart : ∀ {e d}, .took e d ∈ watch.words task → ∃ n, watch.Expects task (n, e)

/-- What others do leaves a task on its track. -/
theorem Tracks.onward {current : World.Task} (h : watch.Tracks task current)
    (ho : Onward watch after task) (hnow : watch.world.store.registry ∈ watch.seen task)
    (hsettings : after.world.settings = watch.world.settings)
    (hdoings : after.doings task = watch.doings task) : after.Tracks task current := by
  have hnames : after.names task = watch.names task := by
    rw [names, names, hdoings]
  have hwords : after.words task = watch.words task := by
    rw [words, words, hdoings, hsettings]
  refine ⟨?_, ?_, ?_, h.nodup, ?_, ?_, ?_⟩
  · rw [hsettings]
    exact h.proceeds
  · rw [hnames]
    exact h.named
  · exact fun b hb => (h.expected b hb).onward ho
  · intro e
    rw [hsettings, hwords]
    exact (h.passage e).mono (fun hkept => hkept.onward ho) fun hgone => hgone.onward ho hnow
  · intro d hm
    rw [hwords] at hm
    rw [hnames]
    exact h.sender hm
  · intro e d hm
    rw [hwords] at hm
    obtain ⟨n, hexpects⟩ := h.apart hm
    exact ⟨n, hexpects.onward ho⟩

/-- No round of the task is under way, and the call uses the name that the task has used. -/
structure Poised (watch : Watch) (task : Nat) (call : Call) : Prop where
  named : ∀ n ∈ watch.names task, call.name? none = some n
  passage : ∀ e, Passage e (.trying []) none (watch.Kept task e) (watch.Gone task e)
    ((watch.words task).filter (Word.concerns e))
  sender : ∀ {d}, .said d ∈ watch.words task → d.sender ∈ watch.names task
  apart : ∀ {e d}, .took e d ∈ watch.words task → ∃ n, watch.Expects task (n, e)

theorem poised_of_new {call : Call} (h : watch.doings task = []) : watch.Poised task call := by
  have hnames : watch.names task = [] := by
    rw [names, h]
    rfl
  have hwords : watch.words task = [] := by
    rw [words, h]
    rfl
  refine ⟨?_, ?_, ?_, ?_⟩
  · rw [hnames]
    exact fun n hn => absurd hn List.not_mem_nil
  · rw [hwords]
    exact fun e => .nil
  · rw [hwords]
    exact fun hm => absurd hm List.not_mem_nil
  · rw [hwords]
    exact fun hm => absurd hm List.not_mem_nil

theorem poised_of_begins {call : Call} (h : watch.world.Begins task call)
    (hfresh : watch.world.tasks.length ≤ task → watch.doings task = [])
    (htracks : ∀ current, watch.world.tasks[task]? = some current → watch.Tracks task current) :
    watch.Poised task call := by
  cases h with
  | connect inbound hlength => exact poised_of_new (hfresh hlength)
  | ask hp hlength => exact poised_of_new (hfresh hlength)
  | @wake session hget hover =>
    have h := htracks _ hget
    refine ⟨?_, h.passage, h.sender, h.apart⟩
    obtain ⟨name?, hkeeps, hall⟩ := h.named
    obtain ⟨endpoint, inbound, state⟩ := session
    cases state with
    | awaitingHello =>
      cases hkeeps
      exact hall
    | active name =>
      cases hkeeps
      exact hall
    | closing name outcome =>
      cases hkeeps
      exact hall
    | closed outcome => cases hover
  | @letGo listener hget =>
    have h := htracks _ hget
    refine ⟨?_, h.passage, h.sender, h.apart⟩
    obtain ⟨name?, hkeeps, hall⟩ := h.named
    cases hkeeps
    exact hall

theorem Poised.tracks {call : Call} (h : watch.Poised task call) :
    watch.Tracks task (.begin watch.world.settings call) := by
  have hfollows := Call.proceeds_program watch.world.settings call
  have hround : (World.Task.begin watch.world.settings call).round = .trying [] :=
    World.Task.round_goOn hfollows
  refine ⟨World.Task.proceeds_goOn hfollows, World.Task.named_goOn hfollows h.named, ?_, ?_,
    fun e => World.Task.passage_goOn hfollows (h.passage e).between, h.sender, h.apart⟩
  · rw [hround]
    exact fun b hb => absurd hb List.not_mem_nil
  · rw [hround]
    exact List.nodup_nil

/-! ### A task that acts -/

section

variable {call : Call} {past : List Event} {action : Action}
  {next : action.Answer → Program Resting} {answer : action.Answer} {store : Store}

/-- Whoever is listed was registered under another name than the task's. -/
theorem expects_of_listing {name : Name} {seen : List Registry} {bindings : List Binding}
    (h : Listing name seen bindings)
    (hseen : ∀ registry ∈ seen, ∀ b ∈ registry.bindings, Registered watch.world.log b.1 b.2)
    (hname : name ∈ watch.names task) : ∀ b ∈ bindings, watch.Expects task b := by
  intro b hb
  obtain ⟨registry, hregistry, hbound⟩ := h.met b hb
  exact ⟨hseen registry hregistry b hbound, name, hname, (h.other b hb).symm⟩

theorem nodup_of_listing {name : Name} {seen : List Registry} {bindings : List Binding}
    (hsound : watch.world.Sound) (h : Listing name seen bindings)
    (hexpects : ∀ b ∈ bindings, watch.Expects task b) : (bindings.map Prod.snd).Nodup := by
  refine List.Nodup.map_on ?_ h.once.of_map
  intro b hb b' hb' heq
  have hr := (hexpects b hb).1
  have hr' := (hexpects b' hb').1
  rw [← heq] at hr'
  exact Prod.ext (hsound.registered_unique hr hr') heq

/-- A task that acts uses the name of its call. -/
theorem Tracks.named_answered (h : watch.Tracks task (.busy call past (.step action next))) :
    ∀ n ∈ (watch.answered task call past next answer store).names task,
      call.name? (Progress.of (past ++ [⟨action, answer⟩])).heard = some n := by
  intro n hn
  rw [names_answered_self, List.mem_append] at hn
  rw [Progress.of_concat]
  refine Call.name?_or ?_ _
  rcases hn with hn | hn
  · exact h.named n hn
  · exact h.proceeds.1.named n (Option.mem_toList.1 hn)

/-- Whoever is kept and is not listed by the task is gone. -/
theorem Tracks.gone_of_missed {name : Name} {bindings : List Binding}
    {next : List Binding → Program Resting}
    (h : watch.Tracks task (.busy call past (.step (.snapshotExcept name) next)))
    (hnow : watch.world.store.registry ∈ watch.seen task)
    (hlisting : Listing name (watch.seen task) bindings)
    (hkept : watch.Kept task e) (hmissed : e ∉ bindings.map Prod.snd) :
    ∃ n, Registered watch.world.log n e ∧ ¬watch.world.store.Binds n e := by
  obtain ⟨n, ⟨hr, m, hm, hne⟩, hall⟩ := hkept
  have hname : m = name := by
    have hused : call.name? (Progress.of past).heard = some m := h.named m hm
    have hlists : call.name? (Progress.of past).heard = some name := h.proceeds.1.named name rfl
    exact Option.some.inj (hused.symm.trans hlists)
  refine ⟨n, hr, Decidable.byContradiction fun hb => ?_⟩
  rw [Decidable.not_not] at hb
  -- it was bound in every registry that was seen, so it must have been listed
  have hstayed : ∀ registry ∈ watch.seen task, (n, e) ∈ registry.bindings := by
    intro registry hregistry
    refine Registry.mem_bindings_iff.2 (Decidable.byContradiction fun hlost => ?_)
    exact hall registry hregistry hlost hb
  have hlisted := hlisting.stayed _ hnow (n, e) (hstayed _ hnow)
    (fun heq => hne (by rw [hname, heq]))
    hstayed
  exact hmissed (List.mem_map.2 ⟨(n, e), hlisted, rfl⟩)

theorem not_listed_of_gone {name : Name} {bindings : List Binding} (hsound : watch.world.Sound)
    (hseen : ∀ registry ∈ watch.seen task, ∀ b ∈ registry.bindings,
      Registered watch.world.log b.1 b.2)
    (hlisting : Listing name (watch.seen task) bindings) (hgone : watch.Gone task e) :
    e ∉ bindings.map Prod.snd := by
  intro hm
  obtain ⟨n, hr, hall⟩ := hgone
  obtain ⟨⟨n', x⟩, hb, rfl⟩ := List.mem_map.1 hm
  obtain ⟨registry, hregistry, hbound⟩ := hlisting.met _ hb
  have heq : n = n' := hsound.registered_unique hr (hseen registry hregistry _ hbound)
  rw [← heq] at hbound
  exact hall registry hregistry (Registry.mem_bindings_iff.1 hbound)

/-- An answer takes the round of a task one step on. -/
theorem Tracks.round_step (h : watch.Tracks task (.busy call past (.step action next)))
    (answer : action.Answer) :
    Round.Step (call.delivery? watch.world.settings.policy (.of past)) (Progress.of past).round
      ⟨action, answer⟩ (Progress.of (past ++ [⟨action, answer⟩])).round := by
  rw [Progress.of_concat]
  exact Round.step_next h.proceeds.1.allowed answer

section

variable (ho : Onward watch (watch.answered task call past next answer store) task)

include ho

/-- Whoever is expected is kept: after its action the task has seen nothing but the registry as
it is. -/
theorem kept_answered {n : Name} (h : watch.Expects task (n, e)) :
    (watch.answered task call past next answer store).Kept task e := by
  refine ⟨n, h.onward ho, fun registry hm hlost => ?_⟩
  rw [seen_answered_self, List.mem_singleton] at hm
  rw [hm] at hlost
  exact hlost

/-- Whoever is registered and not bound any more is gone. -/
theorem gone_answered {n : Name} (hr : Registered watch.world.log n e) (hb : ¬store.Binds n e) :
    (watch.answered task call past next answer store).Gone task e := by
  refine ⟨n, ho.registered hr, fun registry hm => ?_⟩
  rw [seen_answered_self, List.mem_singleton] at hm
  rw [hm]
  exact hb

theorem expects_answered {name : Name} {bindings : List Binding}
    (hname : action.name? = some name) (hlisting : Listing name (watch.seen task) bindings)
    (hseen : ∀ registry ∈ watch.seen task, ∀ b ∈ registry.bindings,
      Registered watch.world.log b.1 b.2) :
    ∀ b ∈ bindings, (watch.answered task call past next answer store).Expects task b := by
  refine expects_of_listing hlisting ?_ ?_
  · exact fun registry hm b hb => ho.registered (hseen registry hm b hb)
  · rw [names_answered_self, hname]
    exact List.mem_append_right _ (List.mem_singleton.2 rfl)

end

section

variable (h : watch.Tracks task (.busy call past (.step action next)))
  (hsound : watch.world.Sound)
  (hsound' : (watch.answered task call past next answer store).world.Sound)
  (hnow : watch.world.store.registry ∈ watch.seen task)
  (hseen : ∀ registry ∈ watch.seen task, ∀ b ∈ registry.bindings,
    Registered watch.world.log b.1 b.2)
  (ha : Answers watch.world.store (watch.seen task) action answer store)
  (ho : Onward watch (watch.answered task call past next answer store) task)

include h ho

theorem Tracks.sender_answered {d : Delivery}
    (hm : .said d ∈ (watch.answered task call past next answer store).words task) :
    d.sender ∈ (watch.answered task call past next answer store).names task := by
  rw [words_answered_self, List.mem_append] at hm
  rcases hm with hm | hm
  · exact ho.names _ (h.sender hm)
  · obtain ⟨bindings, heq⟩ := (h.round_step answer).eq_of_said (Option.mem_toList.1 hm)
    cases heq
    rw [names_answered_self]
    exact List.mem_append_right _ (List.mem_singleton.2 rfl)

/-- Whoever accepts something was expected before. -/
theorem Tracks.apart_answered {d : Delivery}
    (hm : .took e d ∈ (watch.answered task call past next answer store).words task) :
    ∃ n, (watch.answered task call past next answer store).Expects task (n, e) := by
  rw [words_answered_self, List.mem_append] at hm
  rcases hm with hm | hm
  · obtain ⟨n, hexpects⟩ := h.apart hm
    exact ⟨n, hexpects.onward ho⟩
  · obtain ⟨n, hin⟩ := (h.round_step answer).mem_recipients (Option.mem_toList.1 hm)
    exact ⟨n, (h.expected _ hin).onward ho⟩

include hnow hseen ha

theorem Tracks.expected_answered :
    ∀ b ∈ (Progress.of (past ++ [⟨action, answer⟩])).round.recipients,
      (watch.answered task call past next answer store).Expects task b := by
  rcases (h.round_step answer).recipients with ⟨name, bindings, heq, hlisted⟩ | hsub
  · rw [hlisted]
    cases heq
    exact expects_answered ho rfl (ha.listing hnow).1 hseen
  · exact fun b hb => (h.expected b (hsub.subset hb)).onward ho

include hsound' in
theorem Tracks.nodup_answered :
    (Progress.of (past ++ [⟨action, answer⟩])).round.endpoints.Nodup := by
  have hexpected := h.expected_answered hnow hseen ha ho
  rcases (h.round_step answer).recipients with ⟨name, bindings, heq, hlisted⟩ | hsub
  · rw [hlisted] at hexpected
    rw [Round.endpoints, hlisted]
    cases heq
    exact nodup_of_listing hsound' (ha.listing hnow).1 hexpected
  · exact h.nodup.sublist (hsub.map Prod.snd)

include hsound in
/-- Whom the task misses or removes is gone from then on, and whoever it turns to is kept. -/
theorem Tracks.passage_answered (e : EndpointId) :
    Passage e (Progress.of (past ++ [⟨action, answer⟩])).round
      (call.delivery? watch.world.settings.policy (.of (past ++ [⟨action, answer⟩])))
      ((watch.answered task call past next answer store).Kept task e)
      ((watch.answered task call past next answer store).Gone task e)
      (((watch.answered task call past next answer store).words task).filter
        (Word.concerns e)) := by
  rw [words_answered_self, List.filter_append]
  refine Passage.step (h.round_step answer) (h.passage e) h.nodup (fun hk => hk.onward ho)
    (fun hg => hg.onward ho hnow) ?_ ?_ ?_ ?_ ?_
  · intro hr hn
    rw [Progress.of_concat, Progress.next_eq hr hn]
    rfl
  · intro name bindings heq hk hmissed
    cases heq
    obtain ⟨hlisting, hstore⟩ := ha.listing hnow
    obtain ⟨n, hr, hb⟩ := h.gone_of_missed hnow hlisting hk hmissed
    rw [← hstore] at hb
    exact gone_answered ho hr hb
  · intro name bindings heq hg
    cases heq
    exact not_listed_of_gone hsound hseen (ha.listing hnow).1 hg
  · intro hin
    obtain ⟨⟨n, x⟩, hb, rfl⟩ := List.mem_map.1 hin
    exact kept_answered ho (h.expected _ hb)
  · intro n removed heq hin
    cases heq
    exact gone_answered ho (h.expected _ hin).1 ha.not_binds

include hsound hsound' in
/-- **The task's own action keeps it on its track.** -/
theorem Tracks.answered : (watch.answered task call past next answer store).Tracks task
    (.goOn call (past ++ [⟨action, answer⟩]) (next answer)) := by
  have hfollows := h.proceeds.2 answer
  have hround := World.Task.round_goOn hfollows
  refine ⟨World.Task.proceeds_goOn hfollows, World.Task.named_goOn hfollows h.named_answered,
    ?_, ?_, fun e => World.Task.passage_goOn hfollows ?_, h.sender_answered ho,
    h.apart_answered ho⟩
  · rw [hround]
    exact h.expected_answered hnow hseen ha ho
  · rw [hround]
    exact h.nodup_answered hsound' hnow hseen ha ho
  · exact h.passage_answered hsound hnow hseen ha ho e

end

end

/-! ### Every move -/

/-- What is true at every time of a watch. -/
structure Sound (watch : Watch) : Prop where
  books : watch.world.Sound
  /-- Every task sees the registry as it is. -/
  current : ∀ task, watch.world.store.registry ∈ watch.seen task
  registered : ∀ task, ∀ registry ∈ watch.seen task, ∀ b ∈ registry.bindings,
    Registered watch.world.log b.1 b.2
  placed : ∀ record ∈ watch.records, record.task < watch.world.tasks.length
  tracks : ∀ task current, watch.world.tasks[task]? = some current → watch.Tracks task current
  /-- What was read from an endpoint and what is unread is what it accepted. -/
  streams : ∀ e, watch.yielded e ++ (watch.world.store.endpoint e).unread =
    (watch.takings e).map Prod.snd

theorem sound_new (settings : HubSettings) : (new settings).Sound where
  books := World.sound_new settings
  current _ := List.mem_singleton.2 rfl
  registered _ registry hm b hb := by
    rw [List.mem_singleton.1 hm] at hb
    cases hb
  placed _ hm := absurd hm List.not_mem_nil
  tracks _ _ hget := by
    rw [new, World.new, List.getElem?_nil] at hget
    cases hget
  streams e := rfl

/-- Nobody has done anything for a task that there is not yet. -/
theorem Sound.doings_eq (h : watch.Sound) (hlength : watch.world.tasks.length ≤ task) :
    watch.doings task = [] := by
  refine List.filter_eq_nil_iff.2 fun record hm heq => ?_
  have hplaced := h.placed record hm
  rw [of_decide_eq_true heq] at hplaced
  exact absurd hplaced (Nat.not_lt.2 hlength)

section

variable {call : Call} {past : List Event} {action : Action}
  {next : action.Answer → Program Resting} {answer : action.Answer} {store : Store}

/-- An answer to any task leads every task onward. -/
theorem onward_answered (hsound' : (watch.answered task call past next answer store).world.Sound)
    (ha : Answers watch.world.store (watch.seen task) action answer store) (other : Nat) :
    Onward watch (watch.answered task call past next answer store) other where
  registered hr := registered_snoc hr
  unbound hr hb := World.Sound.unbound_answered hsound' ha hr hb
  seen registry hm := by
    by_cases hother : other = task
    · subst hother
      rw [seen_answered_self, List.mem_singleton] at hm
      exact .inr hm
    · rw [seen_answered_of_ne hother, List.mem_append, List.mem_singleton] at hm
      exact hm
  names n hn := by
    by_cases hother : task = other
    · subst hother
      rw [names_answered_self]
      exact List.mem_append_left _ hn
    · rw [names, doings_answered_of_ne hother]
      exact hn

theorem Sound.answered (h : watch.Sound)
    (hget : watch.world.tasks[task]? = some (.busy call past (.step action next)))
    (ha : Answers watch.world.store (watch.seen task) action answer store) :
    (watch.answered task call past next answer store).Sound := by
  have hbooks : (watch.answered task call past next answer store).world.Sound :=
    h.books.answered hget ha (h.registered task)
  have honward := onward_answered hbooks ha
  have hlength : task < watch.world.tasks.length := (List.getElem?_eq_some_iff.1 hget).1
  refine ⟨hbooks, ?_, ?_, ?_, ?_, ?_⟩
  · intro other
    by_cases hother : other = task
    · subst hother
      rw [seen_answered_self]
      exact List.mem_singleton.2 rfl
    · rw [seen_answered_of_ne hother]
      exact List.mem_append_right _ (List.mem_singleton.2 rfl)
  · intro other registry hm b hb
    rcases (honward other).seen registry hm with hm | rfl
    · exact registered_snoc (h.registered other registry hm b hb)
    · exact hbooks.registered_of_mem b hb
  · intro record hm
    have hsame : (watch.answered task call past next answer store).world.tasks.length =
        watch.world.tasks.length := List.length_set
    rw [hsame]
    rcases List.mem_append.1 hm with hm | hm
    · exact h.placed record hm
    · rw [List.mem_singleton.1 hm]
      exact hlength
  · intro other current hcurrent
    by_cases hother : task = other
    · subst hother
      have hself : (watch.answered task call past next answer store).world.tasks[task]? =
          some (.goOn call (past ++ [⟨action, answer⟩]) (next answer)) :=
        List.getElem?_set_self hlength
      cases hself.symm.trans hcurrent
      exact (h.tracks task _ hget).answered h.books hbooks (h.current task) (h.registered task) ha
        (honward task)
    · have hold : watch.world.tasks[other]? = some current :=
        (List.getElem?_set_ne hother).symm.trans hcurrent
      exact (h.tracks other current hold).onward (honward other) (h.current other) rfl
        (doings_answered_of_ne hother)
  · intro e
    have htaken : ((Event.accepted? e ⟨action, answer⟩).map (task, ·)).toList.map Prod.snd =
        BroadcastChat.accepted [⟨action, answer⟩] e := by
      rw [BroadcastChat.accepted, filterMap_one]
      cases Event.accepted? e ⟨action, answer⟩ <;> rfl
    rw [takings_answered, List.map_append, htaken, ← h.streams e, List.append_assoc, ← ha.unread e]
    rfl

end

section

variable {choice : Choice}

/-- What no task does makes nobody lose anything. -/
theorem onward_outside (hne : ∀ task time, choice ≠ .act task time) (task : Nat) :
    Onward watch (watch.outside choice) task where
  registered hr := by
    obtain ⟨more, hlog⟩ := World.exists_log_step watch.world hne
    have hmore : Registered (watch.world.log ++ more) _ _ := registered_append.2 (.inl hr)
    rw [← hlog] at hmore
    exact hmore
  unbound _ hb := by
    rw [outside, Store.Binds, (World.step_of_not_act hne).1]
    exact hb
  seen registry hm := .inl hm
  names n hn := hn

theorem yielded_outside (watch : Watch) (choice : Choice) (e : EndpointId) :
    (watch.outside choice).yielded e = watch.yielded e ++
      (watch.yield? choice).toList.filterMap fun (x, delivery) =>
        if x = e then some delivery else none :=
  List.filterMap_append

/-- What is read from an endpoint was the oldest that it had not yielded. -/
theorem unread_outside (hne : ∀ task time, choice ≠ .act task time) (e : EndpointId) :
    ((watch.yield? choice).toList.filterMap fun (x, delivery) =>
        if x = e then some delivery else none) ++
      ((watch.outside choice).world.store.endpoint e).unread =
        (watch.world.store.endpoint e).unread := by
  cases choice with
  | act task time => exact absurd rfl (hne task time)
  | read x =>
    refine Eq.trans ?_ (Store.unread_read watch.world.store x e)
    congr 1
    rw [yield?]
    cases hread : (watch.world.store.endpoint x).read.1.delivery? with
    | none => exact (congrArg Option.toList (ite_self none)).symm
    | some delivery =>
      by_cases hx : x = e
      · simp [hx]
      · simp [hx]
  | dropStream x => exact Store.update_congr Endpoint.unread rfl e
  | _ =>
    refine congrArg (fun endpoints : Array Endpoint =>
      ((endpoints[e.index]?).getD .gone).unread) ?_
    simp only [outside, World.step]
    repeat' split
    all_goals rfl

theorem Sound.outside (h : watch.Sound) (hne : ∀ task time, choice ≠ .act task time) :
    (watch.outside choice).Sound := by
  have honward : ∀ task, Onward watch (watch.outside choice) task := onward_outside hne
  have hregistry : (watch.outside choice).world.store.registry = watch.world.store.registry :=
    (World.step_of_not_act hne).1
  have hsettings := watch.world.settings_step choice
  refine ⟨h.books.step choice, ?_, ?_, ?_, ?_, ?_⟩
  · intro task
    rw [hregistry]
    exact h.current task
  · exact fun task registry hm b hb =>
      (honward task).registered (h.registered task registry hm b hb)
  · exact fun record hm =>
      Nat.lt_of_lt_of_le (h.placed record hm) (watch.world.length_step hne)
  · intro task current hget
    have hbefore : watch.Tracks task current := by
      rcases World.begins_of_step hne hget with hold | ⟨call, rfl, hbegins⟩
      · exact h.tracks task current hold
      · exact (poised_of_begins hbegins h.doings_eq (h.tracks task)).tracks
    exact hbefore.onward (honward task) (h.current task) hsettings rfl
  · intro e
    have htakings : (watch.outside choice).takings e = watch.takings e := rfl
    rw [yielded_outside, List.append_assoc, unread_outside hne, htakings, h.streams e]

end

/-- **Every move keeps it so.** -/
theorem Sound.step (h : watch.Sound) (move : Move) : (watch.step move).Sound := by
  rcases watch.step_cases move with hsame |
      ⟨task, call, past, action, next, answer, store, hget, ha, hstep⟩ | ⟨choice, hne, hstep⟩
  · rw [hsame]
    exact h
  · rw [hstep]
    exact h.answered hget ha
  · rw [hstep]
    exact h.outside hne

theorem Sound.run (moves : List Move) (h : watch.Sound) : (watch.run moves).Sound := by
  induction moves generalizing watch with
  | nil => exact h
  | cons move rest ih => exact ih (h.step move)

/-- **At every time of a watch all tasks are on their tracks.** -/
theorem sound_run (settings : HubSettings) (moves : List Move) :
    ((new settings).run moves).Sound :=
  (sound_new settings).run moves

end Watch

end BroadcastChat
