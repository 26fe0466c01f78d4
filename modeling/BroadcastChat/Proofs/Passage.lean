/-
# What passes from a task to an endpoint

Two things that a task does concern a given endpoint: the task begins to hand
a delivery out, and the endpoint accepts one from it. Written down in order,
these are the words between the two. As long as the endpoint can be listed,
the words are deliveries that it did not get to see, and then deliveries each
of which it accepted before the next one was begun. At some time the endpoint
is missed or refuses, and after that it gets nothing any more (`Passage`).

What makes this go on from round to round is given here by two statements
`kept` and `gone`: whoever listens to the task and is missed is gone, and who
is gone is not listed. What they are about is the matter of those who know
the registry.

Key definitions: `Word`, `Word.exchange`, `Passage`.
Key theorems: `Passage.list`, `Passage.accept`, `Passage.skip`, `Passage.refuse`,
`Passage.prune`, `Passage.exists_block`.
-/
import BroadcastChat.Proofs.Rounds

namespace BroadcastChat

/-- What concerns an endpoint in the doings of a task. -/
inductive Word where
  /-- The task begins to hand a delivery out. -/
  | said (delivery : Delivery)
  /-- The endpoint accepts a delivery from the task. -/
  | took (endpoint : EndpointId) (delivery : Delivery)
  deriving DecidableEq

/-- What the event says to somebody, if this is what its call has to deliver. -/
def Event.word? (delivery? : Option Delivery) : Event → Option Word
  | ⟨.snapshotExcept _, _⟩ => delivery?.map .said
  | ⟨.deliver e d, .ok _⟩ => some (.took e d)
  | _ => none

namespace Word

/-- What is handed out. -/
def said? : Word → Option Delivery
  | .said d => some d
  | .took _ _ => none

/-- What this endpoint accepts. -/
def took? (e : EndpointId) : Word → Option Delivery
  | .said _ => none
  | .took x d => if x = e then some d else none

/-- Whether the word is not about another endpoint. -/
def concerns (e : EndpointId) : Word → Bool
  | .said _ => true
  | .took x _ => x = e

/-- A delivery that is handed out and accepted. -/
def exchange (e : EndpointId) (d : Delivery) : List Word := [.said d, .took e d]

variable {e : EndpointId}

theorem filterMap_said_filter (words : List Word) :
    (words.filter (concerns e)).filterMap said? = words.filterMap said? := by
  rw [List.filterMap_filter]
  refine List.filterMap_congr fun word _ => ?_
  cases word with
  | said d => rfl
  | took x d => exact ite_self _

theorem filterMap_took_filter (words : List Word) :
    (words.filter (concerns e)).filterMap (took? e) = words.filterMap (took? e) := by
  rw [List.filterMap_filter]
  refine List.filterMap_congr fun word _ => ?_
  cases word with
  | said d => rfl
  | took x d =>
    by_cases hx : x = e
    · simp [concerns, hx]
    · simp [concerns, took?, hx]

theorem filterMap_said_exchange (block : List Delivery) :
    (block.flatMap (exchange e)).filterMap said? = block := by
  induction block with
  | nil => rfl
  | cons d rest ih =>
    rw [List.flatMap_cons, List.filterMap_append, ih]
    rfl

theorem filterMap_took_exchange (block : List Delivery) :
    (block.flatMap (exchange e)).filterMap (took? e) = block := by
  induction block with
  | nil => rfl
  | cons d rest ih =>
    have htook : took? e (.took e d) = some d := if_pos rfl
    have hfirst : (exchange e d).filterMap (took? e) = [d] := by
      rw [exchange, List.filterMap_cons_none rfl, List.filterMap_cons_some htook]
      rfl
    rw [List.flatMap_cons, List.filterMap_append, ih, hfirst]
    rfl

theorem filterMap_said_map (deliveries : List Delivery) :
    (deliveries.map said).filterMap said? = deliveries := by
  rw [List.filterMap_map]
  exact List.filterMap_some

theorem filterMap_took_map (deliveries : List Delivery) :
    (deliveries.map said).filterMap (took? e) = [] := by
  rw [List.filterMap_map]
  exact List.filterMap_eq_nil_iff.2 fun _ _ => rfl

end Word

open Word

/-- Whom the task may still find bound. -/
def Round.endpoints (round : Round) : List EndpointId := round.recipients.map Prod.snd

namespace Round

variable {round after : Round} {delivery? : Option Delivery} {event : Event}

/-- Between two rounds nothing is said. -/
theorem word?_between (hd : event.action.kind ≠ .deliver)
    (hl : ∀ n, event.action ≠ .snapshotExcept n) : event.word? delivery? = none := by
  obtain ⟨action, answer⟩ := event
  cases action with
  | snapshotExcept n => exact absurd rfl (hl n)
  | deliver e d => exact absurd rfl hd
  | _ => rfl

/-- Whoever accepts something is a recipient. -/
theorem Step.mem_recipients {e : EndpointId} {d : Delivery} (h : Step delivery? round event after)
    (hw : event.word? delivery? = some (.took e d)) : ∃ n, (n, e) ∈ round.recipients := by
  cases h with
  | list hd hn =>
    rw [Event.word?, hd] at hw
    cases hw
  | accept hd =>
    cases hw
    exact ⟨_, List.mem_cons_self⟩
  | refuse => cases hw
  | prune => cases hw
  | between hd hl =>
    rw [word?_between hd hl] at hw
    cases hw
  | close => cases hw

/-- What is handed out is handed out to everybody but its sender. -/
theorem Step.eq_of_said {d : Delivery} (h : Step delivery? round event after)
    (hw : event.word? delivery? = some (.said d)) :
    ∃ bindings : List Binding, event = ⟨.snapshotExcept d.sender, bindings⟩ := by
  cases h with
  | @list n bindings d' hd hn =>
    rw [Event.word?, hd] at hw
    cases hw
    exact ⟨bindings, by rw [hn]⟩
  | accept hd => cases hw
  | refuse => cases hw
  | prune => cases hw
  | between hd hl =>
    rw [word?_between hd hl] at hw
    cases hw
  | close => cases hw

end Round

/-- How it stands between a task and an endpoint, with all words so far. Who listens is `kept` until
it is missed, and who was missed or refused is `gone`. -/
inductive Passage (e : EndpointId) (round : Round) (delivery? : Option Delivery)
    (kept gone : Prop) : List Word → Prop where
  /-- The endpoint has nothing to expect from this round. -/
  | quiet (before block : List Delivery) (hout : e ∉ round.endpoints)
      (hkept : block ≠ [] → kept) :
      Passage e round delivery? kept gone (before.map said ++ block.flatMap (exchange e))
  /-- The endpoint is still to be tried. -/
  | offered (before block : List Delivery) {d : Delivery} (hd : delivery? = some d)
      (hin : e ∈ round.waiting.map Prod.snd) (hkept : block ≠ [] → kept) :
      Passage e round delivery? kept gone
        (before.map said ++ block.flatMap (exchange e) ++ [.said d])
  /-- The endpoint did not take what it was offered. -/
  | refused (before block : List Delivery) {d : Delivery} {name : Name} {rest : List Binding}
      (hround : round = .pruning (name, e) rest) :
      Passage e round delivery? kept gone
        (before.map said ++ block.flatMap (exchange e) ++ [.said d])
  /-- The endpoint will not be listed any more. -/
  | lost (before block after : List Delivery) (hout : e ∉ round.endpoints) (hgone : gone) :
      Passage e round delivery? kept gone
        (before.map said ++ block.flatMap (exchange e) ++ after.map said)

namespace Passage

variable {e : EndpointId} {round : Round} {delivery? other? : Option Delivery}
  {kept gone kept' gone' : Prop} {words : List Word} {b : Binding} {rest : List Binding}
  {d : Delivery}

theorem nil : Passage e (.trying []) delivery? kept gone [] :=
  quiet [] [] List.not_mem_nil fun h => absurd rfl h

theorem mono (h : Passage e round delivery? kept gone words) (hkept : kept → kept')
    (hgone : gone → gone') : Passage e round delivery? kept' gone' words := by
  cases h with
  | quiet before block hout hk => exact quiet before block hout fun hne => hkept (hk hne)
  | offered before block hd hin hk => exact offered before block hd hin fun hne => hkept (hk hne)
  | refused before block hround => exact refused before block hround
  | lost before block after hout hg => exact lost before block after hout (hgone hg)

/-- Between two rounds nobody is offered anything. -/
theorem between (h : Passage e (.trying []) delivery? kept gone words) :
    Passage e (.trying []) other? kept gone words := by
  cases h with
  | quiet before block hout hk => exact quiet before block hout hk
  | offered before block hd hin hk => cases hin
  | refused before block hround => cases hround
  | lost before block after hout hg => exact lost before block after hout hg

/-- A round begins: the endpoint is listed, or it is missed. -/
theorem list {bindings : List Binding} (h : Passage e (.trying []) delivery? kept gone words)
    (hd : delivery? = some d) (hkept : kept → kept') (hgone : gone → gone')
    (hmissed : kept → e ∉ bindings.map Prod.snd → gone')
    (hstays : gone → e ∉ bindings.map Prod.snd) :
    Passage e (.trying bindings) delivery? kept' gone' (words ++ [.said d]) := by
  cases h with
  | quiet before block hout hk =>
    by_cases hin : e ∈ bindings.map Prod.snd
    · exact offered before block hd hin fun hne => hkept (hk hne)
    · cases block with
      | nil =>
        -- whoever has accepted nothing may well be listed later
        have hwords : (before ++ [d]).map said ++ [].flatMap (exchange e) =
            before.map said ++ [].flatMap (exchange e) ++ [.said d] := by simp
        rw [← hwords]
        exact quiet (before ++ [d]) [] hin fun hne => absurd rfl hne
      | cons first others =>
        exact lost before (first :: others) [d] hin (hmissed (hk (List.cons_ne_nil _ _)) hin)
  | offered before block hd hin hk => cases hin
  | refused before block hround => cases hround
  | lost before block after hout hg =>
    have hwords : before.map said ++ block.flatMap (exchange e) ++ (after ++ [d]).map said =
        before.map said ++ block.flatMap (exchange e) ++ after.map said ++ [.said d] := by simp
    rw [← hwords]
    exact lost before block (after ++ [d]) (hstays hg) (hgone hg)

/-- The endpoint accepts what is handed out. -/
theorem accept (h : Passage e (.trying (b :: rest)) delivery? kept gone words)
    (hd : delivery? = some d) (he : b.2 = e) (hnodup : ((b :: rest).map Prod.snd).Nodup)
    (hkept : kept) : Passage e (.trying rest) delivery? kept gone (words ++ [.took e d]) := by
  have hin : e ∈ (Round.trying (b :: rest)).endpoints := List.mem_map.2 ⟨b, List.mem_cons_self, he⟩
  cases h with
  | quiet before block hout hk => exact absurd hin hout
  | offered before block hd' hin hk =>
    cases hd.symm.trans hd'
    have hwords : before.map said ++ (block ++ [d]).flatMap (exchange e) =
        before.map said ++ block.flatMap (exchange e) ++ [.said d] ++ [.took e d] := by
      simp [exchange]
    rw [← hwords]
    have hout : e ∉ rest.map Prod.snd := by
      rw [List.map_cons, List.nodup_cons, he] at hnodup
      exact hnodup.1
    exact quiet before (block ++ [d]) hout fun _ => hkept
  | refused before block hround => cases hround
  | lost before block after hout hg => exact absurd hin hout

theorem skip (h : Passage e (.trying (b :: rest)) delivery? kept gone words) (hne : b.2 ≠ e) :
    Passage e (.trying rest) delivery? kept gone words := by
  have hrest : ∀ {x}, x ∈ rest.map Prod.snd → x ∈ (b :: rest).map Prod.snd :=
    fun hm => List.mem_cons_of_mem _ hm
  cases h with
  | quiet before block hout hk => exact quiet before block (fun hm => hout (hrest hm)) hk
  | offered before block hd hin hk =>
    refine offered before block hd ?_ hk
    rcases List.mem_cons.1 hin with heq | hin
    · exact absurd heq.symm hne
    · exact hin
  | refused before block hround => cases hround
  | lost before block after hout hg => exact lost before block after (fun hm => hout (hrest hm)) hg

/-- Somebody does not take it. -/
theorem refuse (h : Passage e (.trying (b :: rest)) delivery? kept gone words) :
    Passage e (.pruning b rest) delivery? kept gone words := by
  cases h with
  | quiet before block hout hk => exact quiet before block hout hk
  | offered before block hd hin hk =>
    obtain ⟨name, x⟩ := b
    rcases List.mem_cons.1 hin with rfl | hin
    · exact refused before block rfl
    · exact offered before block hd hin hk
  | refused before block hround => cases hround
  | lost before block after hout hg => exact lost before block after hout hg

/-- Who did not take it is removed. -/
theorem prune (h : Passage e (.pruning b rest) delivery? kept gone words)
    (hnodup : ((b :: rest).map Prod.snd).Nodup) (hgone : b.2 = e → gone) :
    Passage e (.trying rest) delivery? kept gone words := by
  have hrest : ∀ {x}, x ∈ rest.map Prod.snd → x ∈ (b :: rest).map Prod.snd :=
    fun hm => List.mem_cons_of_mem _ hm
  cases h with
  | quiet before block hout hk => exact quiet before block (fun hm => hout (hrest hm)) hk
  | offered before block hd hin hk => exact offered before block hd hin hk
  | @refused before block d name rest' hround =>
    cases hround
    rw [List.map_cons, List.nodup_cons] at hnodup
    exact lost before block [d] hnodup.1 (hgone rfl)
  | lost before block after hout hg => exact lost before block after (fun hm => hout (hrest hm)) hg

/-- **Every step of a round** takes the passage on. Who is missed by a listing or removed is `gone`
from then on, and whoever is offered something is `kept` at that time. -/
theorem step {after : Round} {event : Event} (hstep : Round.Step delivery? round event after)
    (h : Passage e round delivery? kept gone words) (hnodup : round.endpoints.Nodup)
    (hkept : kept → kept') (hgone : gone → gone')
    (hsame : event.action.kind ≠ .receive → event.action.kind ≠ .now → other? = delivery?)
    (hmissed : ∀ n bindings, event = ⟨.snapshotExcept n, bindings⟩ → kept →
      e ∉ bindings.map Prod.snd → gone')
    (hstays : ∀ n bindings, event = ⟨.snapshotExcept n, bindings⟩ → gone →
      e ∉ bindings.map Prod.snd)
    (hoffered : e ∈ round.endpoints → kept')
    (hpruned : ∀ n removed, event = ⟨.removeIfCurrent n e, removed⟩ → (n, e) ∈ round.recipients →
      gone') :
    Passage e after other? kept' gone'
      (words ++ (event.word? delivery?).toList.filter (concerns e)) := by
  have hsilent : event.word? delivery? = none →
      words ++ (event.word? delivery?).toList.filter (concerns e) = words := by
    intro hword
    rw [hword]
    exact List.append_nil words
  cases hstep with
  | @list n bindings d hd hn =>
    have hword : (Event.word? delivery? ⟨.snapshotExcept n, bindings⟩).toList.filter (concerns e) =
        [.said d] := by
      rw [Event.word?, hd]
      rfl
    rw [hword, hsame (by simp) (by simp)]
    exact h.list hd hkept hgone (hmissed _ _ rfl) (hstays _ _ rfl)
  | @accept b rest d u hd =>
    have hword : (Event.word? delivery? ⟨.deliver b.2 d, .ok u⟩).toList.filter (concerns e) =
        if b.2 = e then [.took b.2 d] else [] := by
      simp [Event.word?, concerns, List.filter_singleton]
    rw [hword, hsame (by simp) (by simp)]
    by_cases he : b.2 = e
    · have hin : e ∈ (Round.trying (b :: rest)).endpoints :=
        List.mem_map.2 ⟨b, List.mem_cons_self, he⟩
      rw [if_pos he, he]
      exact (h.mono hkept hgone).accept hd he hnodup (hoffered hin)
    · rw [if_neg he, List.append_nil]
      exact (h.mono hkept hgone).skip he
  | refuse =>
    rw [hsilent rfl, hsame (by simp) (by simp)]
    exact (h.mono hkept hgone).refuse
  | @prune b rest removed =>
    rw [hsilent rfl, hsame (by simp) (by simp)]
    refine (h.mono hkept hgone).prune hnodup fun he => ?_
    obtain ⟨name, x⟩ := b
    cases he
    exact hpruned name removed rfl List.mem_cons_self
  | between hd hl =>
    rw [hsilent (Round.word?_between hd hl)]
    exact (h.mono hkept hgone).between
  | close =>
    rw [hsilent rfl, hsame (by simp) (by simp)]
    exact h.mono hkept hgone

/-- **What an endpoint accepts from a task is one block of what the task hands out**, and each
delivery of the block is accepted before the next one is begun. -/
theorem exists_block (h : Passage e round delivery? kept gone words) :
    ∃ before block after : List Delivery,
      words = before.map said ++ block.flatMap (exchange e) ++ after.map said := by
  cases h with
  | quiet before block hout hk => exact ⟨before, block, [], (List.append_nil _).symm⟩
  | @offered before block d hd hin hk => exact ⟨before, block, [d], rfl⟩
  | @refused before block d name rest hround => exact ⟨before, block, [d], rfl⟩
  | lost before block after hout hg => exact ⟨before, block, after, rfl⟩

end Passage

end BroadcastChat
