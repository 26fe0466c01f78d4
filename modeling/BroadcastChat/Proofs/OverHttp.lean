/-
# Asking the hub over HTTP

Between a client that asks over HTTP and the hub stand a JSON form in each
direction, a status and the checks of the limits. None of them gets in the way:
a submit over HTTP ends as the hub's own submit does, a text that is no name or
no body is rejected with the limit that it breaks before the hub is asked, and
the names that a client is told are the names that the hub lists. The count that
an accepted submit answers with is the number of queues that have one more
delivery at their end.

Key definitions: `Store.gaining`, `ChatFrame.Breaks`, `ChatFrame.Holds`,
`Network.Submits`.
Key theorems: `FansOut.length_gaining`, `Network.submit_eq`,
`Network.names_eq`, `http_tells_the_hub`.
-/
import BroadcastChat.Network
import BroadcastChat.Proofs.Entry
import BroadcastChat.Proofs.Replies

namespace BroadcastChat

open Client (Error)

/-! ### Queues that gain a delivery -/

/-- The endpoints whose queue has this delivery behind what it had before. -/
def Store.gaining (before after : Store) (delivery : Delivery) : List EndpointId :=
  ((List.range before.endpoints.size).map EndpointId.mk).filter fun e =>
    (after.endpoint e).unread = (before.endpoint e).unread ++ [delivery]

theorem Store.nodup_gaining (before after : Store) (delivery : Delivery) :
    (before.gaining after delivery).Nodup := by
  refine List.Nodup.filter _ (List.Nodup.map (fun i j hij => ?_) List.nodup_range)
  exact congrArg EndpointId.index hij

theorem Store.index_lt_of_open {store : Store} {e : EndpointId}
    (h : (store.endpoint e).isClosed = false) : e.index < store.endpoints.size := by
  by_contra hsize
  have hnone : store.endpoints[e.index]? = none := Array.getElem?_eq_none (Nat.le_of_not_lt hsize)
  rw [Store.endpoint, hnone] at h
  cases h

namespace FansOut

variable {message : Message} {stamp : Timestamp} {store after : Store} {report : Report}

/-- The queues that gain a message are those of whoever is reported to have taken it. -/
theorem mem_gaining (h : FansOut message stamp store report after) (e : EndpointId) :
    e ∈ store.gaining after ⟨message, stamp⟩ ↔ ∃ n ∈ report.delivered, store.Binds n e := by
  constructor
  · intro he
    have hgained : (after.endpoint e).unread = (store.endpoint e).unread ++ [⟨message, stamp⟩] :=
      of_decide_eq_true (List.mem_filter.1 he).2
    have hchanged : (after.endpoint e).unread ≠ (store.endpoint e).unread := by
      intro hsame
      have hlength := congrArg List.length (hsame.symm.trans hgained)
      simp at hlength
    by_cases hbystander : ∀ n, store.Binds n e → n = message.sender
    · exact absurd (congrArg Endpoint.unread (h.bystander e hbystander)) hchanged
    · simp only [not_forall] at hbystander
      obtain ⟨n, hb, hne⟩ := hbystander
      have hmem := (h.mem_iff n).2 ⟨Registry.mem_names.2 ⟨e, hb⟩, hne⟩
      rcases List.mem_append.1 hmem with hd | hp
      · exact ⟨n, hd, hb⟩
      · exact absurd (congrArg Endpoint.unread (h.dropped n hp e hb).2.2) hchanged
  · rintro ⟨n, hn, hb⟩
    obtain ⟨e', hb', -, hopen, -⟩ := (h.delivered_iff n).1 hn
    obtain rfl := hb.unique hb'
    obtain ⟨-, room, hafter⟩ := h.queued n hn e hb
    refine List.mem_filter.2 ⟨List.mem_map.2 ⟨e.index, ?_, rfl⟩, decide_eq_true ?_⟩
    · exact List.mem_range.2 (Store.index_lt_of_open hopen)
    · rw [hafter]

/-- **As many are reported to have taken a message as queues gained it**, if no endpoint holds two
names. -/
theorem length_gaining (h : FansOut message stamp store report after) (hdistinct : store.Distinct) :
    report.delivered.length = (store.gaining after ⟨message, stamp⟩).length := by
  let holder : Name → EndpointId := fun n => (store.registry.lookup n).getD ⟨0⟩
  have hholder : ∀ {n e}, store.Binds n e → holder n = e := by
    intro n e hb
    change (store.registry.lookup n).getD ⟨0⟩ = e
    rw [hb, Option.getD_some]
  have hbound : ∀ n ∈ report.delivered, store.Binds n (holder n) := by
    intro n hn
    obtain ⟨e, hb, -⟩ := (h.delivered_iff n).1 hn
    rwa [hholder hb]
  have hperm : (report.delivered.map holder).Perm (store.gaining after ⟨message, stamp⟩) := by
    refine (List.perm_ext_iff_of_nodup ?_ (store.nodup_gaining after _)).2 fun e => ?_
    · refine List.Nodup.map_on (fun n hn n' hn' heq => ?_) h.nodup.of_append_left
      have hb := hbound n hn
      rw [heq] at hb
      exact hdistinct.eq_of_binds hb (hbound n' hn')
    · rw [h.mem_gaining, List.mem_map]
      constructor
      · rintro ⟨n, hn, rfl⟩
        exact ⟨n, hn, hbound n hn⟩
      · rintro ⟨n, hn, hb⟩
        exact ⟨n, hn, hholder hb⟩
  rw [← hperm.length_eq, List.length_map]

end FansOut

/-! ### What the hub makes of a submit -/

namespace Program

variable {store : Store} {message : Message}

/-- No more take a message than are tried. -/
theorem length_delivered_handOut (time : Timestamp) (delivery : Delivery) (report : Report)
    (recipients : List Binding) (store : Store) :
    ((handOut delivery report recipients).run time store).1.delivered.length ≤
      report.delivered.length + recipients.length := by
  induction recipients generalizing report store with
  | nil => exact Nat.le_refl _
  | cons recipient rest ih =>
    obtain ⟨_, mid, -, -, hrun⟩ := @offered_handOut time delivery report recipient rest store
    rw [hrun, List.length_cons]
    split
    · refine (ih _ mid).trans ?_
      rw [Report.took, List.length_append, List.length_singleton]
      omega
    · refine (ih _ mid).trans ?_
      dsimp only [Report.lost]
      omega

theorem run_submit_of_live (time : Timestamp) (hlive : store.Live message.sender) :
    (submit message).run time store =
      (.ok ((broadcast message).run time store).1, ((broadcast message).run time store).2) := by
  obtain ⟨e, hb, hopen⟩ := hlive
  have hlook : (Action.lookup message.sender).perform time store = (some e, store) := by
    have hlookup : store.registry.lookup message.sender = some e := hb
    simp only [Action.perform, hlookup]
  have hsee : (Action.isClosed e).perform time store = (false, store) := by
    have hclosed : (store.endpoint e).isClosed = false := Bool.eq_false_iff.2 hopen
    simp only [Action.perform, hclosed]
  rw [submit, lookup, run_act_bind, hlook]
  dsimp only
  rw [isClosed, run_act_bind, hsee, if_neg (by simp), run_bind]
  rfl

end Program

namespace Hub

variable {time : Timestamp} {hub after : Hub} {message : Message} {report : Report}

theorem run_of_submit (h : hub.submit time message = (.ok report, after)) :
    (Program.broadcast message).run time hub.store = (report, after.store) := by
  have hlive := (hub.submit_ok_iff time message).1 ⟨report, congrArg Prod.fst h⟩
  have hrun := Program.run_submit_of_live time hlive
  have hresult : ((Program.submit message).run time hub.store).1 = .ok report :=
    congrArg Prod.fst h
  have hstore : ((Program.submit message).run time hub.store).2 = after.store :=
    congrArg (fun pair => pair.2.store) h
  rw [hrun] at hresult hstore
  exact Prod.ext (Except.ok.inj hresult) hstore

/-- No more take a submitted message than there are names. -/
theorem length_delivered_submit (h : hub.submit time message = (.ok report, after)) :
    report.delivered.length ≤ hub.names.length := by
  have hlength := Program.length_delivered_handOut time ⟨message, time⟩ .empty
    (hub.store.registry.snapshotExcept message.sender) hub.store
  have hrun : (Program.handOut ⟨message, time⟩ .empty
      (hub.store.registry.snapshotExcept message.sender)).run time hub.store =
        (report, after.store) := run_of_submit h
  rw [hrun] at hlength
  calc report.delivered.length ≤ 0 + (hub.store.registry.snapshotExcept message.sender).length :=
        hlength
    _ = (hub.store.registry.snapshotExcept message.sender).length := Nat.zero_add _
    _ ≤ hub.store.registry.bindings.length := List.length_filter_le _ _
    _ = hub.names.length := (List.length_map _).symm

/-- **As many are reported to have taken a submitted message as queues gained it.** -/
theorem length_gaining_submit (hdistinct : hub.store.Distinct)
    (h : hub.submit time message = (.ok report, after)) :
    report.delivered.length = (hub.store.gaining after.store ⟨message, time⟩).length := by
  have hfans : FansOut message time hub.store _ _ := Program.fansOut_handOut hdistinct
    (List.Perm.refl (hub.store.registry.snapshotExcept message.sender))
  have hrun : (Program.handOut ⟨message, time⟩ .empty
      (hub.store.registry.snapshotExcept message.sender)).run time hub.store =
        (report, after.store) := run_of_submit h
  rw [hrun] at hfans
  exact hfans.length_gaining hdistinct

end Hub

/-! ### What the server makes of a request -/

namespace Server

variable {time : Timestamp} {server : Server}

theorem submitted_of_read {request : Http.Request} {frame : ChatFrame}
    (hmedia : ((request.header? "content-type").bind Http.MediaType.ofText?).any
      Http.MediaType.isJson = true)
    (hlimit : request.body.length ≤ bodyLimit)
    (hread : ChatFrame.reader.readBytes request.body = .ok frame) :
    submitted request = .ok frame := by
  rw [submitted, if_pos hmedia, if_pos hlimit, hread]

theorem submitted_submitRequest {frame : ChatFrame}
    (hlimit : (Text.Utf8.encode frame.json).length ≤ bodyLimit) :
    submitted (Client.submitRequest frame) = .ok frame := by
  have hheader : (Client.submitRequest frame).header? "content-type" =
      some "application/json" := by
    change ([("content-type", "application/json")].find? fun header =>
      Text.sameWord header.1 "content-type").map Prod.snd = _
    decide +kernel
  have hmedia : ((some "application/json").bind Http.MediaType.ofText?).any
      Http.MediaType.isJson = true := by decide +kernel
  have hbody : (Client.submitRequest frame).body = Text.Utf8.encode frame.json := by
    rw [Client.submitRequest]
  refine submitted_of_read ?_ ?_ ?_
  · rw [hheader]
    exact hmedia
  · rw [hbody]
    exact hlimit
  · rw [hbody, Json.Reader.readBytes_encode]
    exact frame.read_json

theorem request_submit {frame : ChatFrame}
    (hlimit : (Text.Utf8.encode frame.json).length ≤ bodyLimit) :
    server.request time (Client.submitRequest frame) =
      (.response (post time frame server.hub).1,
        { server with hub := (post time frame server.hub).2 }) := by
  rw [request_post rfl rfl, submitted_submitRequest hlimit]

theorem request_names : server.request time Client.namesRequest =
    (.response (.json 200 (roster server.hub).json), server) := by
  have hroute : Route.ofPath? Client.namesRequest.target.path = some .names := by decide
  have htaken : Route.names.methods.contains Client.namesRequest.method = true := by decide
  have hget : ¬Client.namesRequest.method = "HEAD" := by decide
  rw [Server.request, reply, hroute]
  simp only [htaken, if_true, serve, hget, if_false]

end Server

/-! ### What the client learns -/

namespace ChatFrame

variable {frame : ChatFrame} {limit : LimitError}

/-- The first limit that the texts of a chat frame break; the name is looked at first. -/
def Breaks (frame : ChatFrame) (limit : LimitError) : Prop :=
  Name.ofString frame.sender = .error limit ∨
    (∃ name, Name.ofString frame.sender = .ok name) ∧ Body.ofString frame.text = .error limit

theorem breaks_iff : frame.Breaks limit ↔ frame.toMessage = .error limit := by
  rw [Breaks, toMessage, Message.ofTexts]
  cases hname : Name.ofString frame.sender with
  | error broken => simp [bind, Except.bind]
  | ok found => cases Body.ofString frame.text <;> simp [bind, Except.bind, pure, Except.pure]

/-- The texts of a chat frame are this name and this body. -/
def Holds (frame : ChatFrame) (name : Name) (body : Body) : Prop :=
  Name.ofString frame.sender = .ok name ∧ Body.ofString frame.text = .ok body

theorem holds_iff {name : Name} {body : Body} :
    frame.Holds name body ↔ frame.toMessage = .ok ⟨name, body⟩ := by
  rw [Holds, toMessage, Message.ofTexts]
  cases hname : Name.ofString frame.sender with
  | error broken => simp [bind, Except.bind]
  | ok found => cases Body.ofString frame.text <;> simp [bind, Except.bind, pure, Except.pure]

theorem eq_of_holds {message : Message} (h : frame.toMessage = .ok message) {name : Name}
    {body : Body} (hholds : frame.Holds name body) : ⟨name, body⟩ = message :=
  Except.ok.inj ((holds_iff.1 hholds).symm.trans h)

/-- What a frame's texts hold is what it reads as. -/
theorem exists_holds_iff {message : Message} (h : frame.toMessage = .ok message)
    {p : Message → Prop} : (∃ name body, frame.Holds name body ∧ p ⟨name, body⟩) ↔ p message := by
  constructor
  · rintro ⟨name, body, hholds, hp⟩
    rwa [eq_of_holds h hholds] at hp
  · exact fun hp => ⟨message.sender, message.body, holds_iff.2 h, hp⟩

end ChatFrame

namespace Network

variable {network : Network} {address : Client.Address} {time : Timestamp} {frame : ChatFrame}
  {limit : LimitError} {message : Message} {after : Hub}

/-- The network with another hub. -/
def withHub (network : Network) (hub : Hub) : Network :=
  { network with server := { network.server with hub } }

theorem exchange_response (hanswers : network.answersAt address = true) {request : Http.Request}
    {response : Http.Response} {server : Server}
    (h : network.server.request time request = (.response response, server)) :
    network.exchange time address request =
      (.ok (response.status, Text.Utf8.encode (response.body.getD "")),
        { network with server }.settle time) := by
  rw [exchange, if_pos hanswers, h]

/-- What a client makes of a submit is what it makes of how the server posts it. -/
theorem submit_of_post (hanswers : network.answersAt address = true)
    (hlimit : (Text.Utf8.encode frame.json).length ≤ Server.bodyLimit) {response : Http.Response}
    (h : Server.post time frame network.server.hub = (response, after)) :
    network.submit time address frame =
      (Client.receiptOf frame.sender response.status
        (Text.Utf8.encode (response.body.getD "")), (network.withHub after).settle time) := by
  rw [submit, exchange_response hanswers (Server.request_submit hlimit), h]
  rfl

/-- A text that breaks a limit is rejected for it, and the hub is not asked. -/
theorem submit_of_broken (time : Timestamp) (hanswers : network.answersAt address = true)
    (hlimit : (Text.Utf8.encode frame.json).length ≤ Server.bodyLimit)
    (h : frame.toMessage = .error limit) :
    network.submit time address frame =
      (.error (.rejected 400 limit.message), network.settle time) := by
  have hpost : Server.post time frame network.server.hub =
      (Server.complain 400 limit.message, network.server.hub) := by
    rw [Server.post, h]
  rw [submit_of_post hanswers hlimit hpost]
  exact Prod.ext (Client.receiptOf_complaint frame.sender ⟨limit.message⟩) rfl

/-- What a client makes of what the hub makes of its message. -/
def answer (sender : String) : Except NotSubscribed Report → Except Error Nat
  | .ok report => .ok report.delivered.length
  | .error _ => .error (.notSubscribed sender)

/-- **A message that is submitted over HTTP is submitted on the hub**, and the client is told what
comes of it. -/
theorem submit_eq (hanswers : network.answersAt address = true)
    (hlimit : (Text.Utf8.encode frame.json).length ≤ Server.bodyLimit)
    (hword : network.server.hub.names.length ≤ Word.unsignedMax)
    (hmessage : frame.toMessage = .ok message) {result : Except NotSubscribed Report}
    (h : network.server.hub.submit time message = (result, after)) :
    network.submit time address frame =
      (answer frame.sender result, (network.withHub after).settle time) := by
  cases result with
  | error refusal =>
    have hpost : Server.post time frame network.server.hub =
        (Server.complain 404 refusal.message, after) := by
      rw [Server.post, hmessage]
      dsimp only
      rw [h]
    rw [submit_of_post hanswers hlimit hpost]
    have hanswer := Client.receiptOf_missing frame.sender
      (Text.Utf8.encode ((Server.complain 404 refusal.message).body.getD ""))
    exact Prod.ext hanswer rfl
  | ok report =>
    have hpost : Server.post time frame network.server.hub =
        (.json 202 (Server.receipt report).json, after) := by
      rw [Server.post, hmessage]
      dsimp only
      rw [h]
    -- the count fits into a word, which is what a client reads
    have hcount : (Server.receipt report).delivered ≤ Word.unsignedMax :=
      (Hub.length_delivered_submit h).trans hword
    rw [submit_of_post hanswers hlimit hpost]
    exact Prod.ext (Client.receiptOf_receipt hcount frame.sender) rfl

/-- **What a client is told when it asks for the names**: what the hub lists. -/
theorem names_eq (hanswers : network.answersAt address = true) :
    network.names time address =
      (.ok (network.server.hub.names.map Name.text), network.settle time) := by
  rw [names, exchange_response hanswers Server.request_names]
  exact Prod.ext (Client.namesOf_roster (Server.roster network.server.hub)) rfl

/-- **What comes of a submit over HTTP.** -/
structure Submits (network : Network) (address : Client.Address) (time : Timestamp)
    (frame : ChatFrame) : Prop where
  /-- It is answered with a count exactly when the texts are a name and a body and the hub takes the
  message, and then it is the count of those who took it. -/
  accepted : ∀ count, (network.submit time address frame).1 = .ok count ↔
    ∃ name body, frame.Holds name body ∧ ∃ report,
      (network.server.hub.submit time ⟨name, body⟩).1 = .ok report ∧
      report.delivered.length = count
  /-- It fails for the sender's subscription exactly when they are and the hub refuses. -/
  refused : ∀ sender, (network.submit time address frame).1 = .error (.notSubscribed sender) ↔
    sender = frame.sender ∧ ∃ name body, frame.Holds name body ∧ ∃ refusal,
      (network.server.hub.submit time ⟨name, body⟩).1 = .error refusal
  /-- It is rejected exactly when a limit is broken, with the wording of the first one. -/
  rejected : ∀ status text,
    (network.submit time address frame).1 = .error (.rejected status text) ↔
      status = 400 ∧ ∃ limit, frame.Breaks limit ∧ limit.message = text
  /-- It does not fail in any other way. -/
  failure : ∀ error, (network.submit time address frame).1 = .error error →
    error = .notSubscribed frame.sender ∨ ∃ text, error = .rejected 400 text
  /-- What happens on the hub is its own submit. -/
  after : ∀ name body, frame.Holds name body → (network.submit time address frame).2 =
    (network.withHub (network.server.hub.submit time ⟨name, body⟩).2).settle time
  /-- A text that breaks a limit does not change the server. -/
  unchanged : ∀ limit, frame.Breaks limit →
    (network.server.request time (Client.submitRequest frame)).2 = network.server ∧
      (network.submit time address frame).2 = network.settle time
  /-- Those who took the message are the queues that gained it. -/
  gained : network.server.hub.store.Distinct → ∀ name body report, frame.Holds name body →
    (network.server.hub.submit time ⟨name, body⟩).1 = .ok report →
    report.delivered.length = (network.server.hub.store.gaining
      (network.server.hub.submit time ⟨name, body⟩).2.store ⟨⟨name, body⟩, time⟩).length

theorem submits_of_breaks (hanswers : network.answersAt address = true)
    (hlimit : (Text.Utf8.encode frame.json).length ≤ Server.bodyLimit)
    (hbreaks : frame.Breaks limit) : network.Submits address time frame := by
  have hmessage := ChatFrame.breaks_iff.1 hbreaks
  have hsubmit := submit_of_broken time hanswers hlimit hmessage
  have hno : ∀ {name body}, ¬frame.Holds name body := fun hholds => by
    rw [ChatFrame.holds_iff, hmessage] at hholds
    cases hholds
  have hone : ∀ {other}, frame.Breaks other → other = limit := fun hother =>
    Except.error.inj ((ChatFrame.breaks_iff.1 hother).symm.trans hmessage)
  rw [Prod.ext_iff] at hsubmit
  obtain ⟨hanswer, hafter⟩ := hsubmit
  constructor
  case accepted =>
    intro count
    simp [hanswer, hno]
  case refused =>
    intro sender
    simp [hanswer, hno]
  case rejected =>
    intro status text
    rw [hanswer]
    constructor
    · intro h
      cases h
      exact ⟨rfl, limit, hbreaks, rfl⟩
    · rintro ⟨rfl, other, hother, rfl⟩
      rw [hone hother]
  case failure =>
    intro error h
    rw [hanswer] at h
    cases h
    exact .inr ⟨_, rfl⟩
  case after => exact fun name body hholds => absurd hholds hno
  case unchanged =>
    intro other _
    refine ⟨?_, hafter⟩
    rw [Server.request_submit hlimit, Server.post, hmessage]
  case gained => exact fun _ name body report hholds => absurd hholds hno

theorem submits_of_holds (hanswers : network.answersAt address = true)
    (hlimit : (Text.Utf8.encode frame.json).length ≤ Server.bodyLimit)
    (hword : network.server.hub.names.length ≤ Word.unsignedMax)
    (hmessage : frame.toMessage = .ok message) : network.Submits address time frame := by
  have hwhole : ∀ {limit}, ¬frame.Breaks limit := fun hbreaks => by
    rw [ChatFrame.breaks_iff, hmessage] at hbreaks
    cases hbreaks
  obtain ⟨result, after, hsubmit⟩ : ∃ result after,
      network.server.hub.submit time message = (result, after) := ⟨_, _, rfl⟩
  have houtcome := submit_eq hanswers hlimit hword hmessage hsubmit
  rw [Prod.ext_iff] at houtcome
  obtain ⟨hanswer, hafter⟩ := houtcome
  constructor
  case accepted =>
    intro count
    rw [hanswer, ChatFrame.exists_holds_iff hmessage (p := fun message => ∃ report,
      (network.server.hub.submit time message).1 = .ok report ∧ report.delivered.length = count),
      hsubmit]
    cases result <;> simp [answer]
  case refused =>
    intro sender
    rw [hanswer, ChatFrame.exists_holds_iff hmessage (p := fun message => ∃ refusal,
      (network.server.hub.submit time message).1 = .error refusal), hsubmit]
    cases result <;> simp [answer, eq_comm]
  case rejected =>
    intro status text
    rw [hanswer]
    cases result <;> simp [answer, hwhole]
  case failure =>
    intro error h
    rw [hanswer] at h
    cases result with
    | ok report => cases h
    | error refusal =>
      cases h
      exact .inl rfl
  case after =>
    intro name body hheld
    rw [ChatFrame.eq_of_holds hmessage hheld, hsubmit]
    exact hafter
  case unchanged => exact fun limit hbreaks => absurd hbreaks hwhole
  case gained =>
    exact fun hdistinct name body report _ h => Hub.length_gaining_submit hdistinct (Prod.ext h rfl)

/-- A submit over HTTP comes out as one at the hub, or as the limit that its texts break. -/
theorem submits (hanswers : network.answersAt address = true)
    (hlimit : (Text.Utf8.encode frame.json).length ≤ Server.bodyLimit)
    (hword : network.server.hub.names.length ≤ Word.unsignedMax) :
    network.Submits address time frame := by
  cases hmessage : frame.toMessage with
  | ok message => exact submits_of_holds hanswers hlimit hword hmessage
  | error limit => exact submits_of_breaks hanswers hlimit (ChatFrame.breaks_iff.2 hmessage)

end Network

/-! ### The hub over HTTP -/

/-- No endpoint of a server that runs holds two names. -/
theorem Server.distinct_run (settings : HubSettings) (incidents : List (Timestamp × Incident)) :
    ((new settings).run incidents).hub.store.Distinct := by
  have hsound := Stage.sound_run settings ((new settings).moves incidents)
  have hdistinct := hsound.books.distinct
  rwa [(staged_run settings incidents).hub_eq] at hdistinct

/-- **A client that asks over HTTP sees what the hub does.** If the server answers at the address,
the frame is within the limit of a body and the names can be counted in a word, then a submit comes
out as the hub's own, or as the first limit that its texts break; whoever asks for the names is told
the hub's names in the hub's order, and changes nothing. On no server that runs does an endpoint
hold two names, so that a count of names is one of queues. -/
theorem http_tells_the_hub (network : Network) (address : Client.Address) (time : Timestamp)
    (frame : ChatFrame) (hanswers : network.answersAt address = true)
    (hlimit : (Text.Utf8.encode frame.json).length ≤ Server.bodyLimit)
    (hword : network.server.hub.names.length ≤ Word.unsignedMax) :
    network.Submits address time frame ∧
      network.names time address =
        (.ok (network.server.hub.names.map Name.text), network.settle time) ∧
      (network.server.request time Client.namesRequest).2 = network.server ∧
      ∀ settings incidents, ((Server.new settings).run incidents).hub.store.Distinct :=
  ⟨Network.submits hanswers hlimit hword, Network.names_eq hanswers,
    congrArg Prod.snd Server.request_names, Server.distinct_run⟩

namespace Sample

/-- Alice and Bob listen at a server that can be reached. -/
def hall : Network where
  reachable := true
  address := ⟨"localhost", 8080⟩
  server := ⟨((Stage.new {}).run [(⟨0⟩, .openListener alice), (⟨1⟩, .openListener bob)]).hub, #[]⟩
  peers := #[]
  stopped := false

end Sample

/-- Alice reaches Bob, whose queue gains what she says; Carol is not there, and nobody is called by
the empty name. -/
theorem http_tells_the_hub_hall :
    let tells := fun frame => (Sample.hall.submit ⟨2⟩ Sample.hall.address frame).1
    tells ⟨"alice", "hi"⟩ = .ok 1 ∧
      tells ⟨"carol", "hi"⟩ = .error (.notSubscribed "carol") ∧
      tells ⟨"", "hi"⟩ = .error (.rejected 400 "ClientName cannot be empty") ∧
      (Sample.hall.names ⟨2⟩ Sample.hall.address).1 = .ok ["alice", "bob"] ∧
      Sample.hall.server.hub.store.gaining (Sample.hall.server.hub.submit ⟨2⟩
        ⟨Sample.alice, ⟨"hi", by decide⟩⟩).2.store ⟨⟨Sample.alice, ⟨"hi", by decide⟩⟩, ⟨2⟩⟩ =
          [⟨1⟩] := by
  intro tells
  have hword : Sample.hall.server.hub.names.length ≤ Word.unsignedMax := by decide
  have htold : ∀ frame : ChatFrame, (Text.Utf8.encode frame.json).length ≤ Server.bodyLimit →
      Sample.hall.Submits Sample.hall.address ⟨2⟩ frame := fun frame hlimit =>
    (http_tells_the_hub Sample.hall Sample.hall.address ⟨2⟩ frame rfl hlimit hword).1
  refine ⟨?_, ?_, ?_, ?_, by decide⟩
  · refine ((htold ⟨"alice", "hi"⟩ (by decide +kernel)).accepted 1).2 ?_
    exact ⟨Sample.alice, ⟨"hi", by decide⟩, ⟨by decide, by decide⟩, ⟨[Sample.bob], []⟩, by decide,
      rfl⟩
  · refine ((htold ⟨"carol", "hi"⟩ (by decide +kernel)).refused "carol").2 ⟨rfl, ?_⟩
    have hholds : ChatFrame.Holds ⟨"carol", "hi"⟩ ⟨"carol", by decide, by decide⟩
        ⟨"hi", by decide⟩ := ⟨by decide, by decide⟩
    exact ⟨_, _, hholds, _, by rfl⟩
  · refine ((htold ⟨"", "hi"⟩ (by decide +kernel)).rejected 400 _).2 ⟨rfl, ?_⟩
    exact ⟨.nameEmpty, .inl (by decide), rfl⟩
  · have hnames := (http_tells_the_hub Sample.hall Sample.hall.address ⟨2⟩ ⟨"alice", "hi"⟩ rfl
      (by decide +kernel) hword).2.1
    rw [hnames]
    decide

end BroadcastChat
