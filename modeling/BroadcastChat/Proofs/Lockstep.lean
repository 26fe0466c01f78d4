/-
# Programs in lockstep

Two runs of the hub of which the second one lacks the listeners of a name do
the same things to twins. So their programs can be followed together: started on
stores that mirror each other they end on such stores, with answers that go
together (`Program.Together`). What the first run does besides, to strays, is
done while the second one does nothing (`Program.Aside`). A broadcast is where
both come at once: it tries the twins in the same order in both runs, and a stray
in the first one only, which may take the message, refuse it or have gone.

Key definitions: `Report.without`, `Session.Twins`, `Listener.Twins`,
`Program.Together`, `Program.Aside`, `Session.Deed.Spares`.
Key theorems: `Program.Together.bind`, `Program.Together.skip`,
`Program.together_handOut`, `Program.together_submit`,
`Session.together_nextEvent`, `Session.together_carryOut`.
-/
import BroadcastChat.Proofs.Deeds
import BroadcastChat.Proofs.Mirror

namespace BroadcastChat

/-! ### Reports without a name -/

namespace Report

variable {n name : Name}

/-- The report without what it says of a name. -/
def without (n : Name) (report : Report) : Report :=
  ⟨report.delivered.filter (· ≠ n), report.pruned.filter (· ≠ n)⟩

theorem without_took (report : Report) (h : name ≠ n) :
    (report.took name).without n = (report.without n).took name := by
  simp [without, took, h]

theorem without_lost (report : Report) (h : name ≠ n) :
    (report.lost name).without n = (report.without n).lost name := by
  simp [without, lost, h]

theorem without_took_self (report : Report) : (report.took n).without n = report.without n := by
  simp [without, took]

theorem without_lost_self (report : Report) : (report.lost n).without n = report.without n := by
  simp [without, lost]

end Report

/-! ### Sessions and listeners -/

/-- The sessions differ in the number of their endpoint only. -/
structure Session.Twins (pairing : Pairing) (session session' : Session) : Prop where
  endpoint : pairing.twins session.endpoint session'.endpoint
  inbound_eq : session.inbound = session'.inbound
  state_eq : session.state = session'.state

/-- The listeners listen under one name, which is another one, and differ in the number of their
endpoint only. -/
structure Listener.Twins (pairing : Pairing) (n : Name) (listener listener' : Listener) : Prop where
  name_ne : listener.name ≠ n
  name_eq : listener.name = listener'.name
  endpoint : pairing.twins listener.endpoint listener'.endpoint
  enrolled_eq : listener.enrolled = listener'.enrolled

/-- The listener listens under the name, and its endpoint has no twin. -/
structure Listener.IsStray (pairing : Pairing) (n : Name) (listener : Listener) : Prop where
  name_eq : listener.name = n
  endpoint : pairing.stray listener.endpoint

/-! ### Two programs at once -/

namespace Program

variable {α α' β β' : Type} {n name : Name} {pairing : Pairing} {e x : EndpointId}

/-- On stores that mirror each other, and at one time, the programs keep this up, and their answers
go together. -/
def Together (n : Name) (pairing : Pairing) (p : Program α) (q : Program β)
    (post : α → β → Prop) : Prop :=
  ∀ time store bare, store.Mirrors n pairing bare →
    (p.run time store).2.Mirrors n pairing (q.run time bare).2 ∧
      post (p.run time store).1 (q.run time bare).1

/-- What the program does does not show on the second store. -/
def Aside (n : Name) (pairing : Pairing) (p : Program α) : Prop :=
  p.Together n pairing (pure ()) fun _ _ => True

theorem together_pure {a : α} {b : β} {post : α → β → Prop} (h : post a b) :
    (pure a : Program α).Together n pairing (pure b) post := fun _ _ _ hm => ⟨hm, h⟩

theorem Together.bind {p : Program α} {q : Program β} {mid : α → β → Prop}
    {k : α → Program α'} {l : β → Program β'} {post : α' → β' → Prop}
    (h : p.Together n pairing q mid)
    (hk : ∀ a b, mid a b → (k a).Together n pairing (l b) post) :
    (p >>= k).Together n pairing (q >>= l) post := by
  intro time store bare hm
  obtain ⟨hmid, hab⟩ := h time store bare hm
  rw [run_bind, run_bind]
  exact hk _ _ hab time _ _ hmid

/-- The first program goes on alone for a while. -/
theorem Together.skip {p : Program α} {q : Program β} {mid : α → Unit → Prop}
    {k : α → Program α'} {post : α' → β → Prop} (h : p.Together n pairing (pure ()) mid)
    (hk : ∀ a, mid a () → (k a).Together n pairing q post) :
    (p >>= k).Together n pairing q post :=
  Together.bind (q := pure ()) (l := fun _ => q) h fun a _ => hk a

/-! ### One action at once -/

theorem together_isStopped : isStopped.Together n pairing isStopped Eq :=
  fun _ _ _ hm => ⟨hm, hm.stopped_eq⟩

theorem together_now : now.Together n pairing now Eq := fun _ _ _ hm => ⟨hm, rfl⟩

theorem together_stop : stop.Together n pairing stop fun _ _ => True :=
  fun _ _ _ hm => ⟨hm.stop, trivial⟩

theorem together_receive (i : InboundId) : (receive i).Together n pairing (receive i) Eq := by
  intro time store bare hm
  have hinbound : store.inbound i = bare.inbound i := hm.inbound_eq i
  refine ⟨?_, congrArg (fun inbound : Inbound => inbound.read.1) hinbound⟩
  change (store.updateInbound i fun _ => (store.inbound i).read.2).Mirrors n pairing
    (bare.updateInbound i fun _ => (bare.inbound i).read.2)
  rw [← hinbound]
  exact hm.updateInbound i _

theorem together_lookup (hname : name ≠ n) :
    (lookup name).Together n pairing (lookup name) (Option.Rel pairing.twins) :=
  fun _ _ _ hm => ⟨hm, hm.lookup hname⟩

theorem together_snapshotExcept (name : Name) :
    (snapshotExcept name).Together n pairing (snapshotExcept name)
      (Beside (pairing.BindsTwins n) (pairing.BindsStray n)) :=
  fun _ _ _ hm => ⟨hm, hm.bindings.filter fun _ _ hboth => by rw [hboth.2.1]⟩

theorem together_drain :
    drain.Together n pairing drain (Beside (pairing.BindsTwins n) (pairing.BindsStray n)) :=
  fun _ _ _ hm => ⟨hm.withRegistry .nil, hm.bindings⟩

theorem together_register (hname : name ≠ n) (htwins : pairing.twins e x) :
    (register name e).Together n pairing (register name x) (Option.Rel pairing.twins) :=
  fun _ _ _ hm => (hm.register hname htwins).symm

theorem together_removeIfCurrent (hname : name ≠ n) (htwins : pairing.twins e x) :
    (removeIfCurrent name e).Together n pairing (removeIfCurrent name x) Eq :=
  fun _ _ _ hm => (hm.removeIfCurrent hname htwins).symm

section

variable (htwins : pairing.twins e x)
include htwins

theorem together_isClosed : (isClosed e).Together n pairing (isClosed x) Eq :=
  fun _ _ _ hm => ⟨hm, congrArg Endpoint.isClosed (hm.endpoint_eq htwins)⟩

theorem together_close : (close e).Together n pairing (close x) Eq :=
  fun _ _ _ hm => ⟨hm.update htwins _,
    congrArg (fun endpoint : Endpoint => !endpoint.shut) (hm.endpoint_eq htwins)⟩

theorem together_drop : (drop e).Together n pairing (drop x) fun _ _ => True :=
  fun _ _ _ hm => ⟨hm.update htwins _, trivial⟩

theorem together_endWait : (endWait e).Together n pairing (endWait x) fun _ _ => True :=
  fun _ _ _ hm => ⟨hm.update htwins _, trivial⟩

theorem together_deliver (delivery : Delivery) :
    (deliver e delivery).Together n pairing (deliver x delivery) Eq := by
  intro time store bare hm
  have hsame : (store.endpoint e).deliver delivery = (bare.endpoint x).deliver delivery :=
    congrArg (·.deliver delivery) (hm.endpoint_eq htwins)
  rw [deliver, deliver, run_act, run_act]
  cases hd : (bare.endpoint x).deliver delivery with
  | ok after =>
    rw [Action.perform_deliver_ok hd, Action.perform_deliver_ok (hsame.trans hd)]
    exact ⟨hm.update htwins _, rfl⟩
  | error refusal =>
    rw [Action.perform_deliver_error hd, Action.perform_deliver_error (hsame.trans hd)]
    exact ⟨hm, rfl⟩

end

/-! ### One action aside -/

theorem aside_removeIfCurrent (e : EndpointId) : (removeIfCurrent n e).Aside n pairing :=
  fun _ _ _ hm => ⟨hm.removeIfCurrent_stray e, trivial⟩

section

variable (hstray : pairing.stray e)
include hstray

theorem aside_close : (close e).Aside n pairing :=
  fun _ _ _ hm => ⟨hm.update_stray hstray _, trivial⟩

theorem aside_drop : (drop e).Aside n pairing :=
  fun _ _ _ hm => ⟨hm.update_stray hstray _, trivial⟩

theorem aside_deliver (delivery : Delivery) : (deliver e delivery).Aside n pairing := by
  intro time store bare hm
  refine ⟨?_, trivial⟩
  rcases Action.perform_deliver time store e delivery with hsame | ⟨after, _, htaken⟩
  · exact hsame.symm ▸ hm
  · exact htaken.symm ▸ hm.update_stray hstray _

/-- Who is superseded under the name is a stray, too. -/
theorem together_register_stray :
    (register n e).Together n pairing (pure ()) fun superseded _ =>
      ∀ d ∈ superseded, pairing.stray d :=
  fun _ _ _ hm => (hm.register_stray hstray).symm

end

/-! ### Broadcasts -/

/-- **A delivery is handed out alike.** A stray that is tried in between makes no difference to
anybody else, whether it takes the delivery or not. -/
theorem together_handOut (delivery : Delivery) {report report' : Report}
    {list list' : List Binding} (hreport : report.without n = report')
    (h : Beside (pairing.BindsTwins n) (pairing.BindsStray n) list list') :
    (handOut delivery report list).Together n pairing (handOut delivery report' list')
      fun report report' => report.without n = report' := by
  induction h generalizing report report' with
  | nil => exact together_pure hreport
  | @cons binding binding' _ _ hboth _ ih =>
    obtain ⟨name, e⟩ := binding
    obtain ⟨_, x⟩ := binding'
    obtain ⟨hne, rfl, htwins⟩ := hboth
    refine (together_deliver htwins delivery).bind fun answer _ heq => ?_
    subst heq
    cases answer with
    | ok u => exact ih (by rw [Report.without_took report hne, hreport])
    | error refusal =>
      refine (together_removeIfCurrent hne htwins).bind fun _ _ _ => ?_
      refine (together_close htwins).bind fun _ _ _ => ?_
      exact ih (by rw [Report.without_lost report hne, hreport])
  | @skip binding _ _ hstray _ ih =>
    obtain ⟨_, e⟩ := binding
    obtain ⟨rfl, hstray⟩ := hstray
    refine (aside_deliver hstray delivery).skip fun answer _ => ?_
    cases answer with
    | ok u => exact ih (by rw [Report.without_took_self, hreport])
    | error refusal =>
      refine (aside_removeIfCurrent e).skip fun _ _ => ?_
      refine (aside_close hstray).skip fun _ _ => ?_
      exact ih (by rw [Report.without_lost_self, hreport])

theorem together_broadcast (message : Message) :
    (broadcast message).Together n pairing (broadcast message)
      fun report report' => report.without n = report' := by
  refine together_now.bind fun time _ heq => ?_
  subst heq
  refine (together_snapshotExcept message.sender).bind fun list list' hbeside => ?_
  exact together_handOut ⟨message, time⟩ rfl hbeside

/-- **Everybody else's submits have the same results**, but for what they say of the name. -/
theorem together_submit {message : Message} (hsender : message.sender ≠ n) :
    (submit message).Together n pairing (submit message)
      fun result result' => result.map (Report.without n) = result' := by
  refine (together_lookup hsender).bind fun holder holder' hholder => ?_
  cases hholder with
  | none => exact together_pure rfl
  | some htwins =>
    refine (together_isClosed htwins).bind fun closed _ heq => ?_
    subst heq
    cases closed with
    | true =>
      exact (together_removeIfCurrent hsender htwins).bind fun _ _ _ => together_pure rfl
    | false =>
      refine (together_broadcast message).bind fun report report' hreport => ?_
      exact together_pure (congrArg Except.ok hreport)

/-! ### Names taken over and let go of -/

theorem together_takeOver (hname : name ≠ n) (htwins : pairing.twins e x) :
    (takeOver name e).Together n pairing (takeOver name x) fun _ _ => True := by
  refine (together_register hname htwins).bind fun superseded superseded' hrel => ?_
  cases hrel with
  | none => exact together_pure trivial
  | some hprevious => exact (together_close hprevious).bind fun _ _ _ => together_pure trivial

theorem aside_takeOver (hstray : pairing.stray e) : (takeOver n e).Aside n pairing := by
  refine (together_register_stray hstray).skip fun superseded hprevious => ?_
  cases superseded with
  | none => exact together_pure trivial
  | some previous =>
    exact (aside_close (hprevious previous rfl)).skip fun _ _ => together_pure trivial

theorem together_letGo {listener listener' : Listener} (h : listener.Twins pairing n listener') :
    (letGo listener).Together n pairing (letGo listener') fun _ _ => True := by
  have hlast : (close listener.endpoint >>= fun _ => drop listener.endpoint).Together n pairing
      (close listener'.endpoint >>= fun _ => drop listener'.endpoint) fun _ _ => True :=
    (together_close h.endpoint).bind fun _ _ _ => together_drop h.endpoint
  unfold letGo
  rw [← h.enrolled_eq, ← h.name_eq]
  by_cases henrolled : listener.enrolled = true
  · rw [if_pos henrolled, if_pos henrolled]
    exact (together_removeIfCurrent h.name_ne h.endpoint).bind fun _ _ _ => hlast
  · rw [if_neg henrolled, if_neg henrolled]
    exact hlast

theorem aside_letGo {listener : Listener} (h : listener.IsStray pairing n) :
    (letGo listener).Aside n pairing := by
  have hlast : (close listener.endpoint >>= fun _ => drop listener.endpoint).Aside n pairing :=
    (aside_close h.endpoint).skip fun _ _ => aside_drop h.endpoint
  unfold letGo
  rw [h.name_eq]
  by_cases henrolled : listener.enrolled = true
  · rw [if_pos henrolled]
    exact (aside_removeIfCurrent _).skip fun _ _ => hlast
  · rw [if_neg henrolled]
    exact hlast

/-! ### The stop -/

theorem together_closeAll {list list' : List Binding}
    (h : Beside (pairing.BindsTwins n) (pairing.BindsStray n) list list') :
    (closeAll list).Together n pairing (closeAll list') fun _ _ => True := by
  induction h with
  | nil => exact together_pure trivial
  | cons hboth _ ih => exact (together_close hboth.2.2).bind fun _ _ _ => ih
  | skip hstray _ ih => exact (aside_close hstray.2).skip fun _ _ => ih

theorem together_shutDown : shutDown.Together n pairing shutDown fun _ _ => True := by
  refine together_stop.bind fun _ _ _ => ?_
  exact together_drain.bind fun list list' hbeside => together_closeAll hbeside

end Program

/-! ### What sessions do -/

namespace Session

open Program

variable {n : Name} {pairing : Pairing} {session session' : Session} {e x : EndpointId}

/-- **Twin sessions find the same.** -/
theorem together_nextEvent (h : session.Twins pairing session') :
    session.nextEvent.Together n pairing session'.nextEvent Eq := by
  refine together_isStopped.bind fun stopped _ heq => ?_
  subst heq
  cases stopped with
  | true => exact together_pure rfl
  | false =>
    refine (together_isClosed h.endpoint).bind fun closed _ heq => ?_
    subst heq
    cases closed with
    | true => exact together_pure rfl
    | false =>
      simp only [Bool.false_eq_true, if_false, h.inbound_eq]
      refine (together_receive _).bind fun next _ heq => ?_
      subst heq
      cases next <;> exact together_pure rfl

/-- The deed leaves the name alone. -/
def Deed.Spares (n : Name) : Deed → Prop
  | .takeOver name | .release name => name ≠ n
  | _ => True

theorem together_carryOut {deeds : List Deed} (htwins : pairing.twins e x)
    (h : ∀ deed ∈ deeds, deed.Spares n) :
    (carryOut e deeds).Together n pairing (carryOut x deeds) fun _ _ => True := by
  induction deeds with
  | nil => exact together_pure trivial
  | cons deed rest ih =>
    have hdeed : (deed.program e).Together n pairing (deed.program x) fun _ _ => True := by
      cases deed with
      | takeOver name => exact together_takeOver (h _ List.mem_cons_self) htwins
      | broadcast message =>
        exact (together_broadcast message).bind fun _ _ _ => together_pure trivial
      | release name =>
        exact (together_removeIfCurrent (h _ List.mem_cons_self) htwins).bind
          fun _ _ _ => together_pure trivial
      | finish => exact (together_close htwins).bind fun _ _ _ => together_endWait htwins
    exact hdeed.bind fun _ _ _ => ih fun deed hm => h deed (List.mem_cons_of_mem _ hm)

/-- A session that does not go by the name, neither before nor after what it does, leaves it
alone. -/
theorem spares_of_mem_deeds {policy : GreetingPolicy} {state : State} {event : Event}
    (hbefore : state ≠ .active n) (hafter : state.next event ≠ .active n) {deed : Deed}
    (hm : deed ∈ deeds policy state event) : deed.Spares n := by
  cases state with
  | awaitingHello =>
    cases event with
    | message hello =>
      rcases List.mem_cons.1 hm with rfl | hm
      · exact fun hname => hafter (congrArg State.active hname)
      · cases policy with
        | broadcast =>
          rw [List.mem_singleton.1 hm]
          trivial
        | registerOnly => cases hm
    | ending ending =>
      rw [List.mem_singleton.1 hm]
      trivial
  | active name =>
    cases event with
    | message message =>
      rw [List.mem_singleton.1 hm]
      trivial
    | ending ending =>
      rcases List.mem_cons.1 hm with rfl | hm
      · exact fun hname => hbefore (congrArg State.active hname)
      · rw [List.mem_singleton.1 hm]
        trivial
  | closing name outcome => cases hm
  | closed outcome => cases hm

end Session

end BroadcastChat
