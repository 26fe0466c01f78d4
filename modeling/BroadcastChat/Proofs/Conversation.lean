/-
# From a client that chats to a client that listens

A client comes to a server on which anything may have happened, chats and
closes, while anything else may happen (`Server.Visit`). A client that listens
there all the while finds among its deliveries what the other one has said, as
long as nobody else uses the name (`chat_reaches_listener`).

The way goes over the frames that a console sends (`Client.Console.chat_eq`),
the messages that the server reads out of them (`Incoming.messages_chatTexts`),
what the session says of these (`Server.Talks.run`), what is spoken under the
name (`spoken_under`), what the listener's endpoint accepts of that
(`accepted_of_open`), and what is written to its socket and read there
(`Server.reaching_run`).

Key definitions: `Client.Console.uttered`, `Server.Visit`,
`Server.Visit.Private`, `Server.Visit.Kept`, `Server.Visit.Attended`.
Key theorems: `Client.Console.voices_chatTexts`, `Server.Visit.said`,
`Server.Visit.Attended.reaching_after`, `chat_reaches_listener`.
-/
import Mathlib.Data.List.TakeWhile
import BroadcastChat.Proofs.Script
import BroadcastChat.Proofs.Talks

namespace BroadcastChat

/-! ### A listener that is not silenced -/

/-- Where no moment silences an endpoint it goes on to hold its name and stays open. -/
theorem open_of_spared {stage : Stage} {log : List Event} {n : Name} {e : EndpointId}
    (moves : List (Timestamp × Move)) (h : stage.Sound log) (hb : stage.hub.store.Binds n e)
    (hc : ¬stage.hub.store.Closed e)
    (hspared : ∀ moment ∈ history moves stage, moment.silences n e = false) :
    (stage.run moves).hub.store.Binds n e ∧ ¬(stage.run moves).hub.store.Closed e := by
  induction moves generalizing stage log with
  | nil => exact ⟨hb, hc⟩
  | cons move rest ih =>
    have hfate : Moment.Fate ⟨stage, move.1, move.2⟩ n e := Moment.fate h hb hc
    obtain ⟨-, hbinds, hopen⟩ := hfate.spared (hspared _ List.mem_cons_self)
    exact ih (h.step move.1 move.2) hbinds hopen fun moment hm =>
      hspared moment (List.mem_cons_of_mem _ hm)

/-- It accepts all that others speak. -/
theorem accepted_of_spared {stage : Stage} {log : List Event} {n : Name} {e : EndpointId}
    (moves : List (Timestamp × Move)) (h : stage.Sound log) (hb : stage.hub.store.Binds n e)
    (hc : ¬stage.hub.store.Closed e)
    (hspared : ∀ moment ∈ history moves stage, moment.silences n e = false) :
    accepted (logOf (history moves stage)) e =
      ((history moves stage).filterMap Moment.spoken?).filter (·.sender ≠ n) := by
  have hall : (history moves stage).takeWhile (fun moment => !moment.silences n e) =
      history moves stage :=
    List.takeWhile_eq_self_iff.2 fun moment hm => by rw [hspared moment hm]; rfl
  rw [accepted_of_open moves h hb hc, hall]

theorem exists_last {moves : List (Timestamp × Move)} (h : moves ≠ []) (stage : Stage) :
    ∃ moment ∈ history moves stage, moment.after = stage.run moves := by
  obtain ⟨front, move, rfl⟩ := (List.eq_nil_or_concat moves).resolve_left h
  rw [List.concat_eq_append, history_append, Stage.run_append]
  exact ⟨⟨stage.run front, move.1, move.2⟩, List.mem_append_right _ List.mem_cons_self, rfl⟩

/-! ### What is to be heard -/

namespace Client.Console

/-- What others are to hear from a client that chats: the greeting, if greetings are broadcast, and
the lines that are said and not too long. -/
def uttered (policy : GreetingPolicy) (name : Name) (lines : List String) : List ChatFrame :=
  (if policy = .broadcast then [greeting name] else []) ++
    ((spoken lines).filter fun line => line.length ≤ Body.limit).map (ChatFrame.mk name.text)

variable {policy : GreetingPolicy} {name : Name} {lines : List String}

theorem sender_of_uttered {frame : ChatFrame} (h : frame ∈ uttered policy name lines) :
    frame.sender = name.text := by
  rcases List.mem_append.1 h with hgreeting | hline
  · split at hgreeting
    · rw [List.mem_singleton.1 hgreeting]
      rfl
    · cases hgreeting
  · obtain ⟨line, -, rfl⟩ := List.mem_map.1 hline
    rfl

/-- A session that waits for its first message says that of what a client's chat holds. -/
theorem voices_chatTexts {session : Session} (hwaits : session.state = .awaitingHello) :
    (session.voices policy ((chatTexts name lines).filterMap Incoming.message?)).map
      ChatFrame.ofMessage = uttered policy name lines := by
  obtain ⟨said, hmessages, hframes⟩ := Incoming.messages_chatTexts name lines
  have hown : said.map (·.sentAs name) = said := by
    refine (List.map_congr_left fun message hm => ?_).trans (List.map_id said)
    have hmem : ChatFrame.ofMessage message ∈ said.map ChatFrame.ofMessage := List.mem_map_of_mem hm
    rw [hframes] at hmem
    obtain ⟨line, -, hline⟩ := List.mem_map.1 hmem
    have hsender : name = message.sender := Name.ext_text (congrArg ChatFrame.sender hline)
    rw [hsender, Message.sentAs_self, id]
  rw [hmessages, Session.voices_of_awaiting hwaits, hown, List.map_append, hframes, uttered]
  split <;> rfl

end Client.Console

/-! ### What clients ask for -/

/-- What a client that wants to chat asks for. -/
def Client.chatRequest : Http.Request := socketRequest ⟨Server.Route.chat.path, ""⟩

/-- What a client that wants to listen under a name asks for. -/
def Client.listenRequest (name : Name) : Http.Request :=
  socketRequest ⟨Server.Route.listen.path, "name=" ++ Text.Form.encode name.text⟩

namespace Server

theorem socketRefusal?_chatRequest : socketRefusal? Client.chatRequest = none :=
  socketRefusal?_socketRequest _

/-- A client that wants to listen gets a socket. -/
theorem request_listen (time : Timestamp) (server : Server) (name : Name) :
    server.move? (.request (Client.listenRequest name)) = some (.openListener name) ∧
      server.step time (.request (Client.listenRequest name)) =
        (server.openSocket time (.listen name)).2 := by
  have hname : listenName (Client.listenRequest name).target.query = .ok name := by
    have hpairs : Text.Form.pairs (Client.listenRequest name).target.query =
        [("name", name.text)] := Text.Form.pairs_encode name.text
    rw [listenName, hpairs]
    simp [Name.ofString_text, Except.mapError]
  have hpath : (Client.listenRequest name).target.path = Route.listen.path := rfl
  obtain ⟨hasked, hopened⟩ :=
    request_of_listen time server hpath (socketRefusal?_socketRequest _) hname
  refine ⟨hasked, ?_⟩
  rw [step, hopened]

/-! ### A visit -/

/-- A client comes to a server on which things have happened before, and more happens from then
on. -/
structure Visit where
  settings : HubSettings
  early : List (Timestamp × Incident)
  joined : Timestamp
  late : List (Timestamp × Incident)

namespace Visit

section

variable (visit : Visit)

/-- The server when the client comes. -/
def before : Server := (Server.new visit.settings).run visit.early

/-- The socket that the client gets. -/
def place : SocketId := ⟨visit.before.sockets.size⟩

/-- The session behind it. -/
def session : SessionId := ⟨visit.before.hub.sessions.size⟩

/-- What happens from the client's request on. -/
def incidents : List (Timestamp × Incident) :=
  (visit.joined, .request Client.chatRequest) :: visit.late

/-- The server in the end. -/
def after : Server := visit.before.run visit.incidents

/-- What comes in over the client's socket. -/
def heard : List Incoming := heardOver visit.place visit.late

/-- The stage on which the client comes. -/
def stage : Stage := (Stage.new visit.settings).run ((Server.new visit.settings).moves visit.early)

/-- What happens to the hub from the client's request on, moment by moment. -/
def course : List Moment := history (visit.before.moves visit.incidents) visit.stage

/-- Nobody else uses the name: all the while nobody else holds it, and nobody submits under it. -/
structure Private (name : Name) : Prop where
  held : ∀ moment ∈ visit.course,
    moment.stage.Alone name visit.session ∧ moment.after.Alone name visit.session
  submitted : ∀ moment ∈ visit.course, ∀ message,
    moment.move = .submit message → message.sender ≠ name

/-- The server does not close the client's connection: until the session has ended it neither stops
nor closes the session's endpoint. -/
def Kept : Prop := ∀ moment ∈ visit.course, moment.stage.Keeps visit.session

/-- A client listens over a socket when the other one comes, registered under its listener's name,
and goes on to listen: its queue never fills up, nobody takes its name, it does not leave and the
server does not stop. -/
structure Attended (listener : Listener) (place : SocketId) : Prop where
  socket : ∃ sent, visit.before.socket? place = some ⟨.listen listener, sent, none⟩
  holds : visit.before.hub.store.Binds listener.name listener.endpoint
  isOpen : ¬visit.before.hub.store.Closed listener.endpoint
  spared : ∀ moment ∈ visit.course, moment.silences listener.name listener.endpoint = false

theorem performs : visit.before.Performs visit.stage := performs_run visit.settings visit.early

theorem performs_after :
    visit.after.Performs (visit.stage.run (visit.before.moves visit.incidents)) :=
  visit.performs.run visit.incidents

/-- The client gets its socket and talks over it. -/
theorem talks_joined : ∃ session, session.state = .awaitingHello ∧
    (visit.before.step visit.joined (.request Client.chatRequest)).Talks
      (visit.stage.step visit.joined .openSession) visit.place visit.session session [] := by
  obtain ⟨-, session, hwaits, htalks⟩ :=
    visit.performs.talks_new visit.joined rfl socketRefusal?_chatRequest
  rw [visit.performs.staged.hub_eq] at htalks
  exact ⟨session, hwaits, htalks⟩

theorem moves_incidents : visit.before.moves visit.incidents = (visit.joined, .openSession) ::
    (visit.before.step visit.joined (.request Client.chatRequest)).moves visit.late := by
  have hmove : visit.before.move? (.request Client.chatRequest) = some .openSession :=
    (visit.performs.talks_new visit.joined rfl socketRefusal?_chatRequest).1
  rw [incidents, moves, hmove]
  rfl

/-- The session has nothing left to do when it has had as many turns as it has left. -/
theorem idle_of_turns : ∃ session, visit.after.hub.session? visit.session = some session ∧
    ∀ stamps : List Timestamp, visit.after.hub.turnsLeft session ≤ stamps.length →
      ∀ time, (visit.after.run (stamps.map (·, .turn visit.session))).hub.turn time
        visit.session = none := by
  obtain ⟨session, -, htalks⟩ := visit.talks_joined
  obtain ⟨state, hsession⟩ := Stage.session_run htalks.attends.session_eq
    ((visit.before.step visit.joined (.request Client.chatRequest)).moves visit.late)
  have hafter := htalks.performs.run visit.late
  rw [hafter.staged.hub_eq] at hsession
  exact ⟨_, hsession, fun stamps hlength time =>
    hafter.idle_of_turns hsession stamps hlength time⟩

theorem policy_eq : visit.stage.hub.settings.policy = visit.settings.policy :=
  congrArg HubSettings.policy (Stage.settings_run _ (.new visit.settings))

end

open Client.Console (chatTexts uttered)

variable {visit : Visit} {name : Name} {lines : List String} {listener : Listener}
  {place : SocketId}

/-- **What the session of a client that chats says**: the greeting, if greetings are broadcast, and
the lines that are not too long. Then it has ended. -/
theorem said (hheard : visit.heard =
      (chatTexts name lines).map (fun text => .frame (.text text)) ++ [.frame .close])
    (hkept : visit.Kept) (hrest : visit.after.hub.turn time visit.session = none) :
    (saidBy visit.session visit.course).map (fun d => ChatFrame.ofMessage d.message) =
        uttered visit.settings.policy name lines ∧
      ∃ ended, visit.after.hub.session? visit.session = some ended ∧ ended.isOver = true := by
  obtain ⟨session, hwaits, htalks⟩ := visit.talks_joined
  have hstaged := visit.performs_after.staged.hub_eq
  rw [← hstaged, moves_incidents] at hrest
  rw [Kept, course, moves_incidents] at hkept
  obtain ⟨hsaid, hended⟩ := htalks.run visit.late hheard
    (fun moment hm => hkept moment (List.mem_cons_of_mem _ hm)) hrest
  rw [Stage.settings_step, visit.policy_eq, List.nil_append] at hsaid
  rw [course, ← hstaged, moves_incidents, history, saidBy_of_other (by simp)]
  refine ⟨?_, hended⟩
  rw [← Client.Console.voices_chatTexts hwaits, ← hsaid, List.map_map]
  rfl

theorem sender_of_said
    (hsaid : (saidBy visit.session visit.course).map (fun d => ChatFrame.ofMessage d.message) =
      uttered visit.settings.policy name lines) :
    ∀ d ∈ saidBy visit.session visit.course, d.sender = name := by
  intro d hd
  have hmem : ChatFrame.ofMessage d.message ∈
      (saidBy visit.session visit.course).map fun d => ChatFrame.ofMessage d.message :=
    List.mem_map_of_mem hd
  rw [hsaid] at hmem
  exact Name.ext_text (Client.Console.sender_of_uttered hmem)

namespace Attended

variable (h : visit.Attended listener place)
include h

theorem on_stage : visit.stage.hub.store.Binds listener.name listener.endpoint ∧
    ¬visit.stage.hub.store.Closed listener.endpoint := by
  rw [visit.performs.staged.hub_eq]
  exact ⟨h.holds, h.isOpen⟩

/-- Who goes on to listen is there in the end. -/
theorem open_after : ¬visit.after.hub.store.Closed listener.endpoint := by
  obtain ⟨log, hsound⟩ := visit.performs.sound
  obtain ⟨hbinds, hopen⟩ := h.on_stage
  rw [← visit.performs_after.staged.hub_eq]
  exact (open_of_spared _ hsound hbinds hopen h.spared).2

/-- **What reaches a client that listens** in the course of a visit: what others speak. -/
theorem reaching_after : visit.after.reaching place = visit.before.reaching place ++
    (((visit.course.filterMap Moment.spoken?).filter (·.sender ≠ listener.name)).map
      DeliveryFrame.ofDelivery).map .ok := by
  obtain ⟨log, hsound⟩ := visit.performs.sound
  obtain ⟨sent, hsocket⟩ := h.socket
  obtain ⟨hbinds, hopen⟩ := h.on_stage
  have hreaching := reaching_run hsocket visit.performs.staged hsound visit.incidents h.open_after
  rw [accepted_of_spared _ hsound hbinds hopen h.spared] at hreaching
  exact hreaching

/-- As many writes as there are deliveries queued have the client receive them. -/
theorem received_after (stamps : List Timestamp)
    (hlength : (visit.after.hub.store.endpoint listener.endpoint).unread.length ≤ stamps.length) :
    (visit.after.run (stamps.map (·, .write place))).received place =
      visit.after.reaching place := by
  obtain ⟨log, hsound⟩ := visit.performs.sound
  obtain ⟨sent, hsocket⟩ := h.socket
  have hafter :=
    visit.performs.staged.listening_run hsound hsocket visit.incidents h.open_after
  exact received_of_writes hafter stamps h.open_after hlength

end Attended

theorem Private.not_mem_names {ended : Session} (h : visit.Private name)
    (hended : visit.after.hub.session? visit.session = some ended) (hover : ended.isOver = true) :
    name ∉ visit.after.hub.names := by
  obtain ⟨log, hsound⟩ := visit.performs_after.sound
  rw [← visit.performs_after.staged.hub_eq] at hended ⊢
  intro hname
  obtain ⟨e, hbinds⟩ := Registry.mem_names.1 hname
  have hsome : visit.before.moves visit.incidents ≠ [] := by
    rw [moves_incidents]
    exact List.cons_ne_nil _ _
  obtain ⟨moment, hm, hlast⟩ := exists_last hsome visit.stage
  obtain ⟨-, halone⟩ := h.held moment hm
  rw [hlast] at halone
  obtain ⟨holder, hholder, rfl⟩ := halone e hbinds
  cases hended.symm.trans hholder
  exact hsound.not_binds_of_over (Stage.mem_sessions hended) hover name hbinds

/-- What others speak under a name that only the session uses, if the session says nothing under
another one. -/
theorem Private.spoken_eq (h : visit.Private name) (hother : listener.name ≠ name)
    (hown : ∀ d ∈ saidBy visit.session visit.course, d.sender = name) :
    ((visit.course.filterMap Moment.spoken?).filter (·.sender ≠ listener.name)).filter
      (·.sender = name) = saidBy visit.session visit.course := by
  obtain ⟨log, hsound⟩ := visit.performs.sound
  calc ((visit.course.filterMap Moment.spoken?).filter (·.sender ≠ listener.name)).filter
        (·.sender = name)
      = (visit.course.filterMap Moment.spoken?).filter (·.sender = name) := by
        rw [List.filter_filter]
        refine List.filter_congr fun d _ => ?_
        by_cases hd : d.sender = name
        · simp [hd, Ne.symm hother]
        · simp [hd]
    _ = (saidBy visit.session visit.course).filter (·.sender = name) :=
        spoken_under _ hsound h.held h.submitted
    _ = saidBy visit.session visit.course :=
        List.filter_eq_self.2 fun d hd => decide_eq_true (hown d hd)

end Visit

theorem frames_from (name : Name) (ds : List Delivery) :
    ((ds.map DeliveryFrame.ofDelivery).filter (·.message.sender = name.text)).map (·.message) =
      (ds.filter (·.sender = name)).map fun d => ChatFrame.ofMessage d.message := by
  rw [List.filter_map, List.map_map]
  refine congrArg₂ List.map rfl (List.filter_congr fun d _ => ?_)
  refine decide_eq_decide.2 ⟨fun htext => Name.ext_text htext, fun hname => ?_⟩
  exact congrArg Name.text hname

end Server

/-- **From a client that chats to a client that listens.** A client comes to a server as one that
chats under a name, and what comes in over its socket are the frames that its console sends for what
its user types, each within the limit for frames. Nobody else uses the name and the server does not
close the connection. Then every client that listens under another name since before, whose queue
never fills up, receives of messages from the name exactly the greeting, if greetings are broadcast,
and the lines before the first one that asks to leave, in order and as they are, without those of
more than 10000 characters; and the name is not in use afterwards. This holds as soon as the
session has nothing left to do, which it comes to in as many turns as it has left; and as many
writes as there are deliveries queued for the client that listens have it receive them. -/
theorem chat_reaches_listener (visit : Server.Visit) (showClock : Bool) (name : Name)
    (inputs : List Client.Console.Input) (listener : Listener) (place : SocketId)
    (hsent : visit.heard = (Client.Console.chat showClock name inputs).map Incoming.ofFrame)
    (hlimit : ∀ line ∈ Client.Console.spoken (inputs.filterMap Client.Console.Input.line?),
      (Frame.text (ChatFrame.mk name.text line).json).fault? = none)
    (hprivate : visit.Private name) (hkept : visit.Kept)
    (hattended : visit.Attended listener place) (hother : listener.name ≠ name) :
    (∃ session, visit.after.hub.session? visit.session = some session ∧
      ∀ stamps : List Timestamp, visit.after.hub.turnsLeft session ≤ stamps.length →
        ∀ time, (visit.after.run (stamps.map (·, .turn visit.session))).hub.turn time
          visit.session = none) ∧
    (∀ time, visit.after.hub.turn time visit.session = none →
      (∃ news : List DeliveryFrame,
        visit.after.reaching place = visit.before.reaching place ++ news.map .ok ∧
        (news.filter (·.message.sender = name.text)).map (·.message) =
          (if visit.settings.policy = .broadcast then [Client.Console.greeting name] else []) ++
            ((Client.Console.spoken (inputs.filterMap Client.Console.Input.line?)).filter
              (·.length ≤ 10000)).map (ChatFrame.mk name.text)) ∧
      name ∉ visit.after.hub.names) ∧
    ∀ stamps : List Timestamp,
      (visit.after.hub.store.endpoint listener.endpoint).unread.length ≤ stamps.length →
      (visit.after.run (stamps.map (·, .write place))).received place =
        visit.after.reaching place := by
  have hheard := hsent.trans (Incoming.ofFrame_chat showClock name inputs hlimit)
  refine ⟨visit.idle_of_turns, fun time hrest => ?_, hattended.received_after⟩
  obtain ⟨hsaid, ended, hended, hover⟩ := Server.Visit.said hheard hkept hrest
  have hown := Server.Visit.sender_of_said hsaid
  refine ⟨⟨_, hattended.reaching_after, ?_⟩, hprivate.not_mem_names hended hover⟩
  rw [Server.frames_from, hprivate.spoken_eq hother hown]
  exact hsaid

/-! ### A line that is too long -/

namespace Server

/-- Texts come in over a socket and then a close frame, and the session has a turn after each. -/
def attentively (time : Timestamp) (place : SocketId) (id : SessionId) (texts : List String) :
    List (Timestamp × Incident) :=
  (texts.flatMap fun text => [(time, .receive place (.frame (.text text))), (time, .turn id)]) ++
    [(time, .receive place (.frame .close)), (time, .turn id)]

variable {server : Server} {time : Timestamp} {place : SocketId} {id : SessionId}

theorem heardOver_attentively (texts : List String) :
    heardOver place (attentively time place id texts) =
      texts.map (fun text => .frame (.text text)) ++ [.frame .close] := by
  induction texts with
  | nil => simp [attentively, heardOver, Incident.heardOn?]
  | cons text rest ih =>
    have hnext : attentively time place id (text :: rest) =
        (time, .receive place (.frame (.text text))) :: (time, .turn id) ::
          attentively time place id rest := rfl
    have hin : (Incident.receive place (.frame (.text text))).heardOn? place =
        some (.frame (.text text)) := if_pos rfl
    rw [hnext, heardOver_of_some hin, heardOver_of_none rfl, ih]
    rfl

theorem moves_attentively (texts : List String) {sent : List String}
    (h : server.socket? place = some ⟨.chat id, sent, none⟩) :
    server.moves (attentively time place id texts) =
      (texts.flatMap fun text =>
        (Incoming.message? text).toList.map
            (fun message => (time, .arrive id (.message message))) ++
          [(time, .turn id)]) ++ [(time, .endInput id), (time, .turn id)] := by
  induction texts generalizing server with
  | nil =>
    have hclose := move?_receive_close h
    change server.moves [(time, _), (time, .turn id)] = [(time, .endInput id), (time, .turn id)]
    rw [moves, hclose]
    rfl
  | cons text rest ih =>
    have hnext : attentively time place id (text :: rest) =
        (time, .receive place (.frame (.text text))) :: (time, .turn id) ::
          attentively time place id rest := rfl
    obtain ⟨hub, hstep⟩ : ∃ hub, (server.step time (.receive place (.frame (.text text)))).step
        time (.turn id) = { server with hub } := by
      rw [step, receive_text h rfl rfl]
      exact ⟨_, rfl⟩
    have hrest : ({ server with hub } : Server).moves (attentively time place id rest) = _ := ih h
    rw [hnext, moves, move?_receive_text h, moves, hstep, hrest]
    cases hmessage : Incoming.message? text <;> simp [move?, hmessage]

end Server

namespace Sample

/-- A line of so many letters. -/
def drone (count : Nat) : String := String.ofList (List.replicate count 'a')

/-- A line that is too long for a body. -/
def ramble : String := drone 10001

/-- What Alice types: she says something, too much, and something again, and leaves. -/
def typed : List Client.Console.Input :=
  [.line "hi", .line ramble, .line "bye", .line " :q", .line "lost"]

/-- The texts that come of it. -/
def texts : List String :=
  Client.Console.chatTexts alice (typed.filterMap Client.Console.Input.line?)

/-- Bob listens, and Alice comes and chats. -/
def visit : Server.Visit where
  settings := {}
  early := [(⟨1⟩, .request (Client.listenRequest bob))]
  joined := ⟨2⟩
  late := Server.attentively ⟨3⟩ ⟨1⟩ ⟨0⟩ texts

def hi : Body := ⟨"hi", by decide⟩

def bye : Body := ⟨"bye", by decide⟩

/-- What Alice's visit does to the hub. -/
def visiting : List (Timestamp × Move) :=
  [(⟨2⟩, .openSession), (⟨3⟩, .arrive ⟨0⟩ (.message ⟨alice, .empty⟩)), (⟨3⟩, .turn ⟨0⟩),
    (⟨3⟩, .arrive ⟨0⟩ (.message ⟨alice, hi⟩)), (⟨3⟩, .turn ⟨0⟩), (⟨3⟩, .turn ⟨0⟩),
    (⟨3⟩, .arrive ⟨0⟩ (.message ⟨alice, bye⟩)), (⟨3⟩, .turn ⟨0⟩), (⟨3⟩, .endInput ⟨0⟩),
    (⟨3⟩, .turn ⟨0⟩)]

theorem length_drone (count : Nat) : (drone count).length = count := by
  rw [drone, String.length_ofList, List.length_replicate]

theorem trim_drone (count : Nat) : Text.trim (drone count) = drone count := by
  have hletter : ¬Text.isBlank 'a' = true := by decide
  have hleading : (List.replicate count 'a').dropWhile Text.isBlank = List.replicate count 'a' := by
    cases count with
    | zero => rfl
    | succ count => rw [List.replicate_succ, List.dropWhile_cons_of_neg hletter]
  rw [Text.trim, drone, String.toList_ofList, hleading, Text.dropTrailing, List.reverse_replicate,
    hleading, List.reverse_replicate]

theorem isQuit_ramble : Client.isQuit ramble = false := by
  rw [Client.isQuit, ramble, trim_drone, beq_eq_false_iff_ne]
  intro heq
  have hlength := length_drone 10001
  rw [heq] at hlength
  exact absurd hlength (by decide)

theorem spoken_typed : Client.Console.spoken (typed.filterMap Client.Console.Input.line?) =
    ["hi", ramble, "bye"] := by
  have hlines : typed.filterMap Client.Console.Input.line? =
      ["hi", ramble, "bye", " :q", "lost"] := rfl
  have hquit : Client.isQuit "hi" = false ∧ Client.isQuit "bye" = false ∧
      Client.isQuit " :q" = true := by
    decide
  simp [Client.Console.spoken, hlines, hquit, isQuit_ramble]

theorem messages_texts :
    (texts.flatMap fun text =>
      (Incoming.message? text).toList.map (fun message =>
        ((⟨3⟩, .arrive ⟨0⟩ (.message message)) : Timestamp × Move)) ++ [(⟨3⟩, .turn ⟨0⟩)]) ++
      [(⟨3⟩, .endInput ⟨0⟩), (⟨3⟩, .turn ⟨0⟩)] = visiting.tail := by
  have hgreeting : Incoming.message? (ChatFrame.mk alice.text "").json =
      some ⟨alice, .empty⟩ := Incoming.message?_of_fits alice .empty
  have hhi : Incoming.message? (ChatFrame.mk alice.text "hi").json = some ⟨alice, hi⟩ :=
    Incoming.message?_of_fits alice hi
  have hbye : Incoming.message? (ChatFrame.mk alice.text "bye").json = some ⟨alice, bye⟩ :=
    Incoming.message?_of_fits alice bye
  have hramble : Incoming.message? (ChatFrame.mk alice.text ramble).json = none := by
    have hlong : ¬ramble.length ≤ Body.limit := by
      rw [ramble, length_drone]
      decide
    exact Option.map_eq_none_iff.1 ((Incoming.message?_json alice ramble).trans (if_neg hlong))
  rw [texts, Client.Console.chatTexts, spoken_typed]
  simp only [Client.Console.greeting, List.map_cons, List.map_nil, List.flatMap_cons,
    List.flatMap_nil, hgreeting, hhi, hramble, hbye]
  rfl

theorem before_visit : visit.before = ((Server.new {}).openSocket ⟨1⟩ (.listen bob)).2 := by
  rw [Server.Visit.before, visit, Server.run_singleton, (Server.request_listen _ _ _).2]

theorem stage_visit : visit.stage = (Stage.new {}).run [(⟨1⟩, .openListener bob)] := by
  have hmoves : (Server.new {}).moves [(⟨1⟩, .request (Client.listenRequest bob))] =
      [(⟨1⟩, .openListener bob)] := by
    rw [Server.moves, (Server.request_listen ⟨1⟩ (.new {}) bob).1]
    rfl
  exact congrArg (Stage.new {}).run hmoves

theorem place_visit : visit.place = ⟨1⟩ := by
  rw [Server.Visit.place, before_visit]
  rfl

theorem session_visit : visit.session = ⟨0⟩ := by
  rw [Server.Visit.session, before_visit]
  rfl

theorem moves_visit : visit.before.moves visit.incidents = visiting := by
  obtain ⟨session, -, htalks⟩ := visit.talks_joined
  obtain ⟨sent, hsocket⟩ := htalks.socket
  rw [place_visit, session_visit] at hsocket
  have hlate : visit.late = Server.attentively ⟨3⟩ ⟨1⟩ ⟨0⟩ texts := rfl
  rw [Server.Visit.moves_incidents, hlate, Server.moves_attentively texts hsocket, messages_texts]
  rfl

theorem course_visit : visit.course =
    history visiting ((Stage.new {}).run [(⟨1⟩, .openListener bob)]) := by
  rw [Server.Visit.course, moves_visit, stage_visit]

end Sample

/-- Bob, who listens, receives Alice's greeting and what she says before she leaves, except for the
line that is too long. -/
theorem chat_reaches_listener_ramble :
    (∃ news : List DeliveryFrame, Sample.visit.after.reaching ⟨0⟩ =
        Sample.visit.before.reaching ⟨0⟩ ++ news.map .ok ∧
      (news.filter (·.message.sender = "alice")).map (·.message) =
        [⟨"alice", ""⟩, ⟨"alice", "hi"⟩, ⟨"alice", "bye"⟩]) ∧
    Sample.alice ∉ Sample.visit.after.hub.names := by
  have hlimit : ∀ line ∈ Client.Console.spoken
      (Sample.typed.filterMap Client.Console.Input.line?),
      (Frame.text (ChatFrame.mk Sample.alice.text line).json).fault? = none := by
    rw [Sample.spoken_typed]
    intro line hline
    refine ChatFrame.fault?_json Sample.alice ?_
    simp only [List.mem_cons, List.not_mem_nil, or_false] at hline
    rcases hline with rfl | rfl | rfl
    · decide
    · rw [Sample.ramble, Sample.length_drone]
      decide
    · decide
  have hsent : Sample.visit.heard =
      (Client.Console.chat true Sample.alice Sample.typed).map Incoming.ofFrame := by
    rw [Incoming.ofFrame_chat true Sample.alice Sample.typed hlimit, Server.Visit.heard,
      Sample.place_visit]
    exact Server.heardOver_attentively Sample.texts
  have hprivate : Sample.visit.Private Sample.alice := by
    have hsilent : ∀ moment ∈ history Sample.visiting
        ((Stage.new {}).run [(⟨1⟩, .openListener Sample.bob)]), moment.answer?.isNone = true := by
      decide
    refine ⟨?_, fun moment hm message hmove => ?_⟩
    · rw [Sample.course_visit, Sample.session_visit]
      decide
    · rw [Sample.course_visit] at hm
      have hnone := hsilent moment hm
      rw [Moment.answer?, hmove] at hnone
      cases hnone
  have hkept : Sample.visit.Kept := by
    rw [Server.Visit.Kept, Sample.course_visit, Sample.session_visit]
    decide
  have hattended : Sample.visit.Attended ⟨Sample.bob, ⟨0⟩, true⟩ ⟨0⟩ := by
    refine ⟨⟨[], ?_⟩, ?_, ?_, ?_⟩
    · rw [Sample.before_visit]
      decide
    · rw [Sample.before_visit]
      decide
    · rw [Sample.before_visit]
      decide
    · rw [Sample.course_visit]
      decide
  have hrest : Sample.visit.after.hub.turn ⟨4⟩ Sample.visit.session = none := by
    rw [← Sample.visit.performs_after.staged.hub_eq, Sample.moves_visit, Sample.stage_visit,
      Sample.session_visit]
    decide
  obtain ⟨-, hheard, -⟩ := chat_reaches_listener Sample.visit true Sample.alice Sample.typed
    ⟨Sample.bob, ⟨0⟩, true⟩ ⟨0⟩ hsent hlimit hprivate hkept hattended (by decide)
  obtain ⟨⟨news, hreaching, hnews⟩, hgone⟩ := hheard ⟨4⟩ hrest
  refine ⟨⟨news, hreaching, hnews.trans ?_⟩, hgone⟩
  have hfits : ["hi", Sample.ramble, "bye"].filter (·.length ≤ 10000) = ["hi", "bye"] := by
    have hlong : ¬Sample.ramble.length ≤ 10000 := by
      rw [Sample.ramble, Sample.length_drone]
      decide
    rw [List.filter_cons_of_pos (by decide), List.filter_cons_of_neg (by simp [hlong]),
      List.filter_cons_of_pos (by decide), List.filter_nil]
  rw [Sample.spoken_typed, hfits]
  rfl

end BroadcastChat
