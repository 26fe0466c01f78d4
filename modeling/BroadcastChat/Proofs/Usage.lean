/-
# What an endpoint promises

Whoever has a handle on an endpoint delivers to it, closes it, asks whether it
is closed and waits for its closure; whoever has its stream reads from it and
drops it. All handles are handles on one queue, so what is done through any of
them is one list of uses. What a use answers is decided by the uses before it
and what they answered (`promised`): by what was accepted and not yet read, by
whether there was a close or the stream was dropped, and by the waits that are
neither over nor given up. What the endpoint itself keeps is no more than a
summary of that (`Usage.Recalls`).

Key definitions: `Endpoint.Use`, `Endpoint.Usage`, `Endpoint.Used`,
`Endpoint.backlog`, `Endpoint.outstanding`, `Endpoint.promised`,
`Endpoint.Contract`.
Key theorems: `Endpoint.Usage.Recalls.step`, `Endpoint.Usage.recalls_run`,
`Endpoint.Usage.Recalls.contract`, `endpoint_contract`.
-/
import Mathlib.Data.List.Basic
import BroadcastChat.Proofs.FanOut
import BroadcastChat.Proofs.Runs

namespace BroadcastChat

namespace Endpoint

/-! ### Uses -/

/-- What one does with an endpoint through any of its handles, or with its stream. The waits for
its closure are numbered in the order in which they are begun. -/
inductive Use where
  | deliver (delivery : Delivery)
  | close
  | isClosed
  /-- Begins a wait, and looks at it once. -/
  | beginWait
  /-- Looks at a wait again. -/
  | pollWait (wait : Nat)
  /-- Gives a wait up. -/
  | endWait (wait : Nat)
  | read
  | drop
  deriving DecidableEq

/-- What a use answers: for a wait that is looked at, whether it is over, if there is such a wait;
for one that is given up, whether there was. -/
@[reducible]
def Use.Answer : Use → Type
  | .deliver _ => Except Refusal Unit
  | .close => Bool
  | .isClosed => Bool
  | .beginWait => Bool
  | .pollWait _ => Option Bool
  | .endWait _ => Bool
  | .read => Reading
  | .drop => Unit

/-- An endpoint in use, with the waits that are neither over nor given up. -/
structure Usage where
  endpoint : Endpoint
  begun : Nat
  waiting : List Nat

namespace Usage

/-- A new endpoint, for whose closure nobody waits. -/
def new (capacity : Nat) : Usage := ⟨.new capacity, 0, []⟩

/-- Uses the endpoint once. -/
def perform (usage : Usage) : (use : Use) → use.Answer × Usage
  | .deliver delivery =>
    match usage.endpoint.deliver delivery with
    | .ok after => (.ok (), { usage with endpoint := after })
    | .error refusal => (.error refusal, usage)
  | .close => (!usage.endpoint.shut, { usage with endpoint := usage.endpoint.close })
  | .isClosed => (usage.endpoint.isClosed, usage)
  | .beginWait =>
    (usage.endpoint.isClosed, {
      endpoint := usage.endpoint.beginWait
      begun := usage.begun + 1
      waiting := if usage.endpoint.isClosed then usage.waiting
        else usage.begun :: usage.waiting })
  | .pollWait wait =>
    if wait ∈ usage.waiting then
      (some usage.endpoint.isClosed, { usage with
        endpoint := usage.endpoint.pollWait
        waiting := if usage.endpoint.isClosed then usage.waiting.erase wait
          else usage.waiting })
    else (none, usage)
  | .endWait wait =>
    if wait ∈ usage.waiting then
      (true, { usage with
        endpoint := usage.endpoint.endWait
        waiting := usage.waiting.erase wait })
    else (false, usage)
  | .read => (usage.endpoint.read.1, { usage with endpoint := usage.endpoint.read.2 })
  | .drop => ((), { usage with endpoint := usage.endpoint.drop })

end Usage

theorem Usage.same_of_refused {usage : Usage} {delivery : Delivery}
    (h : (usage.perform (.deliver delivery)).1 ≠ .ok ()) :
    (usage.perform (.deliver delivery)).2 = usage := by
  rw [perform] at h ⊢
  cases hd : usage.endpoint.deliver delivery with
  | ok after =>
    rw [hd] at h
    exact absurd rfl h
  | error refusal => rfl

/-- A use and what it answered. -/
structure Used where
  use : Use
  answer : use.Answer

namespace Usage

/-- The endpoint after these uses. -/
def run (usage : Usage) (uses : List Use) : Usage :=
  uses.foldl (fun usage use => (usage.perform use).2) usage

/-- These uses with their answers. -/
def history : List Use → Usage → List Used
  | [], _ => []
  | use :: rest, usage => ⟨use, (usage.perform use).1⟩ :: history rest (usage.perform use).2

end Usage

/-! ### What the uses before decide -/

namespace Used

/-- The delivery that was accepted, if one was. -/
def accepted? : Used → Option Delivery
  | ⟨.deliver delivery, .ok _⟩ => some delivery
  | _ => none

/-- The delivery that was read, if one was. -/
def obtained? : Used → Option Delivery
  | ⟨.read, .delivery delivery⟩ => some delivery
  | _ => none

/-- Whether the wait that was begun was over at once. -/
def begun? : Used → Option Bool
  | ⟨.beginWait, atOnce⟩ => some atOnce
  | _ => none

/-- Whether the wait was found to be over, or was given up. -/
def ends (wait : Nat) : Used → Bool
  | ⟨.pollWait i, some true⟩ => i == wait
  | ⟨.endWait i, true⟩ => i == wait
  | _ => false

end Used

section

variable (log : List Used)

/-- The deliveries that were accepted, in order. -/
def taken : List Delivery := log.filterMap Used.accepted?

/-- The deliveries that were read, in order. -/
def obtained : List Delivery := log.filterMap Used.obtained?

/-- The deliveries that were accepted and not yet read. -/
def backlog : List Delivery := (taken log).drop (obtained log).length

/-- Whether there was a close. -/
def wasClosed : Bool := log.any fun used => used.use == .close

/-- Whether the stream was dropped. -/
def wasDropped : Bool := log.any fun used => used.use == .drop

/-- Whether either end is gone. -/
def wasEnded : Bool := wasClosed log || wasDropped log

/-- For each wait that was begun, whether it was over at once. -/
def begunWaits : List Bool := log.filterMap Used.begun?

/-- Whether a wait was begun in time and is neither over nor given up. -/
def outstanding (wait : Nat) : Bool :=
  (begunWaits log)[wait]? == some false && !log.any (Used.ends wait)

/-- Whether any wait is outstanding. -/
def anyOutstanding : Bool := (List.range (begunWaits log).length).any (outstanding log)

/-- What a use answers after these uses, for an endpoint of this capacity. -/
def promised (capacity : Nat) : (use : Use) → use.Answer
  | .deliver _ =>
    if wasEnded log then .error .closed
    else if (backlog log).length < max capacity 1 then .ok ()
    else .error .full
  | .close => !wasClosed log
  | .isClosed => wasEnded log
  | .beginWait => wasEnded log
  | .pollWait wait => if outstanding log wait then some (wasEnded log) else none
  | .endWait wait => outstanding log wait
  | .read =>
    if wasDropped log then .dropped
    else
      match backlog log with
      | delivery :: _ => .delivery delivery
      | [] => if wasClosed log && !anyOutstanding log then .ended else .pending
  | .drop => ()

end

/-! ### One more use -/

section

variable {log : List Used} {used : Used}

theorem filterMap_snoc {α β : Type} (f : α → Option β) (as : List α) (a : α) :
    (as ++ [a]).filterMap f = as.filterMap f ++ (f a).toList := by
  rw [List.filterMap_append]
  cases h : f a <;> simp [h]

theorem taken_snoc : taken (log ++ [used]) = taken log ++ used.accepted?.toList :=
  filterMap_snoc _ _ _

theorem obtained_snoc : obtained (log ++ [used]) = obtained log ++ used.obtained?.toList :=
  filterMap_snoc _ _ _

theorem wasClosed_snoc :
    wasClosed (log ++ [used]) = (wasClosed log || used.use == .close) := by
  simp [wasClosed]

theorem wasDropped_snoc :
    wasDropped (log ++ [used]) = (wasDropped log || used.use == .drop) := by
  simp [wasDropped]

theorem begunWaits_snoc :
    begunWaits (log ++ [used]) = begunWaits log ++ used.begun?.toList :=
  filterMap_snoc _ _ _

/-- A use that begins no wait ends at most one. -/
theorem outstanding_snoc (h : used.begun? = none) (wait : Nat) :
    outstanding (log ++ [used]) wait = (outstanding log wait && !used.ends wait) := by
  simp [outstanding, begunWaits_snoc, h, Bool.and_assoc]

/-- A wait that is begun gets the next number, and is kept unless it is over at once. -/
theorem outstanding_snoc_beginWait (atOnce : Bool) (wait : Nat)
    (hfresh : log.any (Used.ends (begunWaits log).length) = false) :
    outstanding (log ++ [⟨.beginWait, atOnce⟩]) wait =
      (outstanding log wait || wait == (begunWaits log).length && !atOnce) := by
  have hends : (log ++ [⟨.beginWait, atOnce⟩] : List Used).any (Used.ends wait) =
      log.any (Used.ends wait) := by
    rw [List.any_append, List.any_cons, List.any_nil, Bool.or_false]
    exact Bool.or_false _
  have hbegun : begunWaits (log ++ [⟨.beginWait, atOnce⟩]) = begunWaits log ++ [atOnce] :=
    begunWaits_snoc
  rw [outstanding, hends, hbegun, outstanding]
  rcases Nat.lt_trichotomy wait (begunWaits log).length with hlt | rfl | hgt
  · rw [List.getElem?_append_left hlt, beq_false_of_ne (Nat.ne_of_lt hlt), Bool.false_and,
      Bool.or_false]
  · rw [List.getElem?_concat_length, List.getElem?_eq_none (Nat.le_refl _), hfresh]
    cases atOnce <;> simp
  · have hlength : (begunWaits log ++ [atOnce]).length ≤ wait := by
      rw [List.length_append]
      exact hgt
    rw [List.getElem?_eq_none hlength, List.getElem?_eq_none (Nat.le_of_lt hgt),
      beq_false_of_ne (Nat.ne_of_gt hgt), Bool.false_and, Bool.or_false]

theorem lt_of_outstanding {wait : Nat} (h : outstanding log wait = true) :
    wait < (begunWaits log).length := by
  rw [outstanding, Bool.and_eq_true, beq_iff_eq] at h
  exact (List.getElem?_eq_some_iff.1 h.1).1

/-- Some wait is outstanding exactly if one of all numbers is that of such a wait. -/
theorem anyOutstanding_iff : anyOutstanding log = true ↔ ∃ wait, outstanding log wait = true := by
  rw [anyOutstanding, List.any_eq_true]
  constructor
  · rintro ⟨wait, _, h⟩
    exact ⟨wait, h⟩
  · rintro ⟨wait, h⟩
    exact ⟨wait, List.mem_range.2 (lt_of_outstanding h), h⟩

end

/-! ### What the endpoint recalls of its past -/

namespace Usage

/-- What the endpoint keeps is what its past comes down to. -/
structure Recalls (usage : Usage) (capacity : Nat) (log : List Used) : Prop where
  bound_eq : usage.endpoint.bound = max capacity 1
  taken_eq : taken log = obtained log ++ usage.endpoint.unread
  shut_eq : usage.endpoint.shut = wasClosed log
  dropped_eq : usage.endpoint.dropped = wasDropped log
  begun_eq : usage.begun = (begunWaits log).length
  lt_of_ends : ∀ {wait}, log.any (Used.ends wait) = true → wait < usage.begun
  mem_waiting : ∀ wait, wait ∈ usage.waiting ↔ outstanding log wait = true
  nodup : usage.waiting.Nodup
  waits_eq : usage.endpoint.waits = usage.waiting.length

theorem recalls_new (capacity : Nat) : (new capacity).Recalls capacity [] where
  bound_eq := rfl
  taken_eq := rfl
  shut_eq := rfl
  dropped_eq := rfl
  begun_eq := rfl
  lt_of_ends h := by cases h
  mem_waiting wait := by simp [new, outstanding, begunWaits]
  nodup := .nil
  waits_eq := rfl

namespace Recalls

variable {usage : Usage} {capacity : Nat} {log : List Used} (h : usage.Recalls capacity log)
include h

theorem isClosed_eq : usage.endpoint.isClosed = wasEnded log := by
  rw [Endpoint.isClosed, h.shut_eq, h.dropped_eq, wasEnded]

theorem backlog_eq : backlog log = usage.endpoint.unread := by
  rw [backlog, h.taken_eq, List.drop_left]

theorem length_backlog_le : (backlog log).length ≤ max capacity 1 := by
  rw [h.backlog_eq, ← h.bound_eq]
  exact usage.endpoint.unread_le

theorem not_outstanding_begun : outstanding log usage.begun = false := by
  rw [Bool.eq_false_iff]
  intro hout
  exact Nat.lt_irrefl _ (h.begun_eq ▸ lt_of_outstanding hout)

theorem waiting_eq_nil_iff : usage.waiting = [] ↔ anyOutstanding log = false := by
  rw [Bool.eq_false_iff, Ne, anyOutstanding_iff, List.eq_nil_iff_forall_not_mem, not_exists]
  exact forall_congr' fun wait => not_congr (h.mem_waiting wait)

/-- **A use answers what its past promises.** -/
theorem answer_eq (use : Use) : (usage.perform use).1 = promised log capacity use := by
  cases use with
  | deliver delivery =>
    have hpromised : promised log capacity (.deliver delivery) =
        match usage.endpoint.refusal? with
        | none => .ok ()
        | some refusal => .error refusal := by
      rw [promised, ← h.isClosed_eq, h.backlog_eq, ← h.bound_eq, refusal?]
      split
      · rfl
      · split <;> rfl
    rw [hpromised, perform]
    cases hd : usage.endpoint.deliver delivery with
    | ok after => rw [refusal?_of_ok hd]
    | error refusal => rw [refusal?_of_error hd]
  | close => exact congrArg (!·) h.shut_eq
  | isClosed => exact h.isClosed_eq
  | beginWait => exact h.isClosed_eq
  | pollWait wait =>
    simp only [perform, promised, ← h.mem_waiting, ← h.isClosed_eq]
    split <;> rfl
  | endWait wait =>
    rw [perform, promised, Bool.eq_iff_iff, ← h.mem_waiting]
    split <;> simp [*]
  | read =>
    have hfinal : usage.endpoint.isFinal = (wasClosed log && !anyOutstanding log) := by
      rw [isFinal, h.shut_eq, h.waits_eq, Bool.eq_iff_iff, Bool.and_eq_true, Bool.and_eq_true,
        beq_iff_eq, List.length_eq_zero_iff, h.waiting_eq_nil_iff, Bool.not_eq_true']
    rw [perform, fst_read, promised, h.backlog_eq, h.dropped_eq, hfinal]
    cases usage.endpoint.unread <;> rfl
  | drop => rfl

/-- A use that neither begins a wait nor ends one. -/
theorem of_quiet {used : Used} {after : Endpoint} (hbegun : used.begun? = none)
    (hends : ∀ wait, used.ends wait = false) (hbound : after.bound = usage.endpoint.bound)
    (hqueue : usage.endpoint.unread ++ used.accepted?.toList =
      used.obtained?.toList ++ after.unread)
    (hshut : after.shut = (usage.endpoint.shut || used.use == .close))
    (hdropped : after.dropped = (usage.endpoint.dropped || used.use == .drop))
    (hwaits : after.waits = usage.endpoint.waits) :
    ({ usage with endpoint := after } : Usage).Recalls capacity (log ++ [used]) where
  bound_eq := hbound.trans h.bound_eq
  taken_eq := by
    rw [taken_snoc, h.taken_eq, obtained_snoc, List.append_assoc, hqueue, List.append_assoc]
  shut_eq := by rw [hshut, wasClosed_snoc, h.shut_eq]
  dropped_eq := by rw [hdropped, wasDropped_snoc, h.dropped_eq]
  begun_eq := by
    rw [begunWaits_snoc, hbegun, Option.toList_none, List.append_nil]
    exact h.begun_eq
  lt_of_ends {wait} hw := by
    rw [List.any_append, Bool.or_eq_true, List.any_cons, hends wait] at hw
    exact h.lt_of_ends (hw.resolve_right (by simp))
  mem_waiting wait := by
    rw [outstanding_snoc hbegun, hends wait, Bool.not_false, Bool.and_true]
    exact h.mem_waiting wait
  nodup := h.nodup
  waits_eq := hwaits.trans h.waits_eq

/-- A use that ends one of the waits. -/
theorem of_ended {used : Used} {after : Endpoint} {wait : Nat} (hwait : wait ∈ usage.waiting)
    (hbegun : used.begun? = none) (hends : ∀ i, used.ends i = (wait == i))
    (haccepted : used.accepted? = none) (hobtained : used.obtained? = none)
    (hclose : used.use ≠ .close) (hdrop : used.use ≠ .drop)
    (hafter : after = usage.endpoint.endWait) :
    ({ usage with endpoint := after, waiting := usage.waiting.erase wait } : Usage).Recalls
      capacity (log ++ [used]) where
  bound_eq := by
    rw [hafter]
    exact h.bound_eq
  taken_eq := by
    rw [taken_snoc, haccepted, obtained_snoc, hobtained, hafter]
    simpa [endWait] using h.taken_eq
  shut_eq := by
    rw [wasClosed_snoc, beq_false_of_ne hclose, Bool.or_false, hafter]
    exact h.shut_eq
  dropped_eq := by
    rw [wasDropped_snoc, beq_false_of_ne hdrop, Bool.or_false, hafter]
    exact h.dropped_eq
  begun_eq := by
    rw [begunWaits_snoc, hbegun, Option.toList_none, List.append_nil]
    exact h.begun_eq
  lt_of_ends {i} hi := by
    rw [List.any_append, Bool.or_eq_true] at hi
    rcases hi with hi | hi
    · exact h.lt_of_ends hi
    · rw [List.any_cons, hends, List.any_nil, Bool.or_false, beq_iff_eq] at hi
      rw [← hi, h.begun_eq]
      exact lt_of_outstanding ((h.mem_waiting wait).1 hwait)
  mem_waiting i := by
    rw [outstanding_snoc hbegun, hends, h.nodup.mem_erase_iff, h.mem_waiting, Bool.and_eq_true,
      Bool.not_eq_true', beq_eq_false_iff_ne, and_comm]
    exact and_congr_right fun _ => ne_comm
  nodup := h.nodup.erase wait
  waits_eq := by
    rw [List.length_erase_of_mem hwait, hafter, endWait, h.waits_eq]

/-- A wait that is begun is kept if the endpoint is open. -/
theorem of_begun : ((usage.perform .beginWait).2).Recalls capacity
    (log ++ [⟨.beginWait, usage.endpoint.isClosed⟩]) where
  bound_eq := by
    refine Eq.trans ?_ h.bound_eq
    unfold perform beginWait
    split <;> rfl
  taken_eq := by
    rw [taken_snoc, obtained_snoc]
    simpa [perform, unread_beginWait, Used.accepted?, Used.obtained?] using h.taken_eq
  shut_eq := by
    rw [wasClosed_snoc, ← h.shut_eq]
    exact (Action.shut_beginWait _).trans (Bool.or_false _).symm
  dropped_eq := by
    rw [wasDropped_snoc, ← h.dropped_eq]
    exact (dropped_beginWait _).trans (Bool.or_false _).symm
  begun_eq := by
    rw [begunWaits_snoc, List.length_append, ← h.begun_eq]
    rfl
  lt_of_ends {wait} hw := by
    rw [List.any_append, Bool.or_eq_true] at hw
    refine Nat.lt_succ_of_lt (h.lt_of_ends (hw.resolve_right ?_))
    simp [Used.ends]
  mem_waiting wait := by
    have hfresh : log.any (Used.ends (begunWaits log).length) = false := by
      rw [Bool.eq_false_iff]
      intro hany
      exact Nat.lt_irrefl _ (h.begun_eq ▸ h.lt_of_ends hany)
    rw [outstanding_snoc_beginWait _ wait hfresh, Bool.or_eq_true, ← h.mem_waiting, ← h.begun_eq,
      Bool.and_eq_true, beq_iff_eq, Bool.not_eq_true']
    unfold perform
    split
    · rename_i hclosed
      simp [hclosed]
    · rename_i hopen
      simp [hopen, or_comm]
  nodup := by
    unfold perform
    split
    · exact h.nodup
    · refine List.nodup_cons.2 ⟨?_, h.nodup⟩
      rw [h.mem_waiting, h.not_outstanding_begun]
      exact Bool.false_ne_true
  waits_eq := by
    unfold perform beginWait
    split
    · exact h.waits_eq
    · exact congrArg (· + 1) h.waits_eq

/-- **What the endpoint keeps stays what its past comes down to**, in every use. -/
theorem step (use : Use) :
    (usage.perform use).2.Recalls capacity (log ++ [⟨use, (usage.perform use).1⟩]) := by
  cases use with
  | deliver delivery =>
    rw [perform]
    cases hd : usage.endpoint.deliver delivery with
    | ok after =>
      obtain ⟨_, rfl⟩ := eq_of_deliver hd
      exact h.of_quiet rfl (fun _ => rfl) rfl rfl (Bool.or_false _).symm (Bool.or_false _).symm rfl
    | error refusal =>
      exact h.of_quiet rfl (fun _ => rfl) rfl (List.append_nil _) (Bool.or_false _).symm
        (Bool.or_false _).symm rfl
  | close =>
    exact h.of_quiet rfl (fun _ => rfl) rfl (List.append_nil _) (Bool.or_true _).symm
      (Bool.or_false _).symm rfl
  | isClosed =>
    exact h.of_quiet rfl (fun _ => rfl) rfl (List.append_nil _) (Bool.or_false _).symm
      (Bool.or_false _).symm rfl
  | beginWait => exact h.of_begun
  | pollWait wait =>
    rw [perform]
    by_cases hwait : wait ∈ usage.waiting
    · rw [if_pos hwait]
      cases hc : usage.endpoint.isClosed with
      | true =>
        refine h.of_ended hwait rfl (fun _ => rfl) rfl rfl nofun nofun ?_
        rw [pollWait, if_pos hc]
      | false =>
        have hsame : usage.endpoint.pollWait = usage.endpoint := by
          rw [pollWait, if_neg (by simp [hc])]
        rw [hsame]
        exact h.of_quiet rfl (fun _ => rfl) rfl (List.append_nil _) (Bool.or_false _).symm
          (Bool.or_false _).symm rfl
    · rw [if_neg hwait]
      exact h.of_quiet rfl (fun _ => rfl) rfl (List.append_nil _) (Bool.or_false _).symm
        (Bool.or_false _).symm rfl
  | endWait wait =>
    rw [perform]
    by_cases hwait : wait ∈ usage.waiting
    · rw [if_pos hwait]
      exact h.of_ended hwait rfl (fun _ => rfl) rfl rfl nofun nofun rfl
    · rw [if_neg hwait]
      exact h.of_quiet rfl (fun _ => rfl) rfl (List.append_nil _) (Bool.or_false _).symm
        (Bool.or_false _).symm rfl
  | read =>
    refine h.of_quiet rfl (fun _ => rfl) (bound_read _) ?_ ?_ ?_ (waits_read _)
    · -- what was obtained is what the reading gives
      have hobtained : Used.obtained? ⟨.read, usage.endpoint.read.1⟩ =
          usage.endpoint.read.1.delivery? := by
        cases usage.endpoint.read.1 <;> rfl
      refine (List.append_nil _).trans ?_
      rw [perform, hobtained]
      exact usage.endpoint.unread_read.symm
    · exact (shut_read _).trans (Bool.or_false _).symm
    · exact (dropped_read _).trans (Bool.or_false _).symm
  | drop =>
    exact h.of_quiet rfl (fun _ => rfl) rfl (List.append_nil _) (Bool.or_false _).symm
      (Bool.or_true _).symm rfl

omit h in
/-- What the endpoint keeps at any time is what its past comes down to. -/
theorem run (uses : List Use) (h : usage.Recalls capacity log) :
    (usage.run uses).Recalls capacity (log ++ usage.history uses) := by
  induction uses generalizing usage log with
  | nil =>
    rw [history, List.append_nil]
    exact h
  | cons use rest ih =>
    have hrest := ih (h.step use)
    rw [List.append_assoc] at hrest
    exact hrest

end Recalls

theorem recalls_run (capacity : Nat) (uses : List Use) :
    ((new capacity).run uses).Recalls capacity ((new capacity).history uses) :=
  (recalls_new capacity).run uses

end Usage

/-! ### What the promise comes to -/

section

variable {log : List Used} {capacity : Nat}

theorem promised_ok_iff {delivery : Delivery} :
    promised log capacity (.deliver delivery) = .ok () ↔
      wasEnded log = false ∧ (backlog log).length < max capacity 1 := by
  rw [promised]
  cases wasEnded log with
  | true => simp
  | false =>
    rw [if_neg Bool.false_ne_true]
    split <;> simp [*]

theorem promised_full_iff {delivery : Delivery} :
    promised log capacity (.deliver delivery) = .error .full ↔
      wasEnded log = false ∧ max capacity 1 ≤ (backlog log).length := by
  rw [promised, ← Nat.not_lt]
  cases wasEnded log with
  | true => simp
  | false =>
    rw [if_neg Bool.false_ne_true]
    split <;> simp [*]

theorem promised_closed_iff {delivery : Delivery} :
    promised log capacity (.deliver delivery) = .error .closed ↔ wasEnded log = true := by
  rw [promised]
  cases wasEnded log with
  | true => simp
  | false =>
    rw [if_neg Bool.false_ne_true]
    split <;> simp

theorem promised_delivery_iff {delivery : Delivery} :
    promised log capacity .read = .delivery delivery ↔
      wasDropped log = false ∧ ∃ rest, backlog log = delivery :: rest := by
  rw [promised]
  cases wasDropped log with
  | true => simp
  | false =>
    cases backlog log with
    | nil => cases wasClosed log <;> cases anyOutstanding log <;> simp
    | cons first rest => simp

theorem promised_ended_iff :
    promised log capacity .read = .ended ↔
      wasDropped log = false ∧ wasClosed log = true ∧ backlog log = [] ∧
        ∀ wait, outstanding log wait = false := by
  have hnone : (∀ wait, outstanding log wait = false) ↔ anyOutstanding log = false := by
    rw [Bool.eq_false_iff, Ne, anyOutstanding_iff, not_exists]
    exact forall_congr' fun wait => Bool.eq_false_iff
  rw [promised, hnone]
  cases wasDropped log with
  | true => simp
  | false =>
    cases backlog log with
    | nil => cases wasClosed log <;> cases anyOutstanding log <;> simp
    | cons first rest => simp

end

/-- **What an endpoint promises** after a history of uses, by any of its handles and by the owner
of its stream. -/
structure Contract (capacity : Nat) (usage : Usage) (log : List Used) : Prop where
  /-- What was accepted was read in that order and each once, but for the backlog. -/
  taken_eq : taken log = obtained log ++ backlog log
  length_backlog_le : (backlog log).length ≤ max capacity 1
  /-- A delivery is taken if neither end is gone and the backlog leaves room. -/
  deliver_ok_iff : ∀ delivery, (usage.perform (.deliver delivery)).1 = .ok () ↔
    wasEnded log = false ∧ (backlog log).length < max capacity 1
  /-- It is refused as full if only the room is missing. -/
  deliver_full_iff : ∀ delivery, (usage.perform (.deliver delivery)).1 = .error .full ↔
    wasEnded log = false ∧ (backlog log).length = max capacity 1
  deliver_closed_iff : ∀ delivery, (usage.perform (.deliver delivery)).1 = .error .closed ↔
    wasEnded log = true
  /-- A delivery that is refused changes nothing. -/
  refused : ∀ delivery, (usage.perform (.deliver delivery)).1 ≠ .ok () →
    (usage.perform (.deliver delivery)).2 = usage
  /-- Only the first close answers that it was one. -/
  close_eq : (usage.perform .close).1 = !wasClosed log
  /-- The endpoint is closed from the first close or the drop of its stream on. -/
  isClosed_eq : (usage.perform .isClosed).1 = wasEnded log
  /-- A wait that is begun is over at once if the endpoint is closed, -/
  beginWait_eq : (usage.perform .beginWait).1 = wasEnded log
  /-- and else it is over from then on. -/
  pollWait_eq : ∀ wait, outstanding log wait = true →
    (usage.perform (.pollWait wait)).1 = some (wasEnded log)
  /-- The first of the backlog is read next. -/
  read_delivery_iff : ∀ delivery, (usage.perform .read).1 = .delivery delivery ↔
    wasDropped log = false ∧ ∃ rest, backlog log = delivery :: rest
  /-- The stream has ended once there was a close, the backlog is read, and no wait that was begun
  in time is outstanding. -/
  read_ended_iff : (usage.perform .read).1 = .ended ↔
    wasDropped log = false ∧ wasClosed log = true ∧ backlog log = [] ∧
      ∀ wait, outstanding log wait = false

theorem Usage.Recalls.contract {usage : Usage} {capacity : Nat} {log : List Used}
    (h : usage.Recalls capacity log) : Contract capacity usage log where
  taken_eq := by
    rw [h.backlog_eq]
    exact h.taken_eq
  length_backlog_le := h.length_backlog_le
  deliver_ok_iff delivery := by rw [h.answer_eq, promised_ok_iff]
  deliver_full_iff delivery := by
    rw [h.answer_eq, promised_full_iff]
    exact and_congr_right fun _ => ⟨Nat.le_antisymm h.length_backlog_le, Nat.le_of_eq ∘ Eq.symm⟩
  deliver_closed_iff delivery := by rw [h.answer_eq, promised_closed_iff]
  refused _ := same_of_refused
  close_eq := h.answer_eq _
  isClosed_eq := h.answer_eq _
  beginWait_eq := h.answer_eq _
  pollWait_eq wait hwait := by rw [h.answer_eq, promised, if_pos hwait]
  read_delivery_iff delivery := by rw [h.answer_eq, promised_delivery_iff]
  read_ended_iff := by rw [h.answer_eq, promised_ended_iff]

end Endpoint

/-- **An endpoint keeps its contract** after any uses of it, whoever uses it. -/
theorem endpoint_contract (capacity : Nat) (uses : List Endpoint.Use) :
    Endpoint.Contract capacity ((Endpoint.Usage.new capacity).run uses)
      ((Endpoint.Usage.new capacity).history uses) :=
  (Endpoint.Usage.recalls_run capacity uses).contract

/-- A wait that was begun before the close is over when it is looked at again, and until then the
stream has not ended. -/
theorem endpoint_contract_waiting :
    let usage := (Endpoint.Usage.new 0).run [.beginWait, .close]
    (usage.perform (.pollWait 0)).1 = some true ∧ (usage.perform .read).1 ≠ .ended := by
  intro usage
  have hcontract := endpoint_contract 0 [.beginWait, .close]
  refine ⟨hcontract.pollWait_eq 0 (by decide), fun hread => ?_⟩
  obtain ⟨_, _, _, hnone⟩ := hcontract.read_ended_iff.1 hread
  exact absurd (hnone 0) (by decide)

end BroadcastChat
