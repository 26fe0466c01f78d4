/-
# What gets into a server

Texts come in from outside in text frames, in submitted messages, in the
queries of those who want to listen, and in JSON values. Only texts within the
limits get in, and whatever a server keeps, it got as it is: every name that is
bound, every sender and every body in a queue stands in something that came in
(`Server.Incident.names`, `Server.Incident.bodies`). The other way round, on
each way in what is within the limits is taken and what is not changes nothing
(`Server.Hears`, `Server.Posts`, `Server.Enrols`).

A limit counts characters, which are Unicode scalar values: however a text is
written, with escapes or without, it is the text that is counted.

Key definitions: `Name.Fits`, `Body.Fits`, `Server.Incident.names`,
`Server.Incident.bodies`, `Server.carried`, `Server.Hears`, `Server.TakesUp`,
`Server.Posts`, `Server.Enrols`, `ChatFrame.Written`, `ReadsAsWritten`,
`Server.LetsInValid`, `ReadHoweverWritten`.
Key theorems: `Server.drawn_run`, `Server.hears`, `Server.takesUp`,
`Server.posts`, `Server.enrols`, `ChatFrame.written_of_said`,
`readsAsWritten`, `readHoweverWritten`, `only_valid_texts_get_in`.
-/
import BroadcastChat.Proofs.Checked
import BroadcastChat.Proofs.Gateway
import BroadcastChat.Proofs.Outbound
import BroadcastChat.Proofs.Provenance
import BroadcastChat.Proofs.Queries
import BroadcastChat.Proofs.Uptake

namespace BroadcastChat

/-! ### Within the limits -/

/-- Whether a text has as many characters as a name may have. -/
def Name.Fits (text : String) : Prop := 1 ≤ text.length ∧ text.length ≤ 100

/-- Whether a text has as many characters as a body may have. -/
def Body.Fits (text : String) : Prop := text.length ≤ 10000

/-- Whether both texts of a chat frame are within the limits. -/
def ChatFrame.Fits (frame : ChatFrame) : Prop := Name.Fits frame.sender ∧ Body.Fits frame.text

theorem Name.fits (name : Name) : Name.Fits name.text := by
  refine ⟨Nat.pos_of_ne_zero fun hzero => name.ne_empty ?_, name.length_le⟩
  exact String.length_eq_zero_iff.1 hzero

theorem Name.fits_iff {text : String} : Name.Fits text ↔ ∃ name : Name, name.text = text := by
  constructor
  · rintro ⟨hpos, hle⟩
    have hsome : text ≠ "" := by
      rintro rfl
      exact absurd hpos (by decide)
    exact ⟨⟨text, hsome, hle⟩, rfl⟩
  · rintro ⟨name, rfl⟩
    exact name.fits

theorem Body.fits_iff {text : String} : Body.Fits text ↔ ∃ body : Body, body.text = text := by
  constructor
  · intro hle
    exact ⟨⟨text, hle⟩, rfl⟩
  · rintro ⟨body, rfl⟩
    exact body.length_le

theorem Message.exists_iff_fits {sender body : String} :
    (∃ message : Message, message.sender.text = sender ∧ message.body.text = body) ↔
      Name.Fits sender ∧ Body.Fits body := by
  rw [Name.fits_iff, Body.fits_iff]
  constructor
  · rintro ⟨message, hsender, hbody⟩
    exact ⟨⟨message.sender, hsender⟩, ⟨message.body, hbody⟩⟩
  · rintro ⟨⟨name, hname⟩, ⟨body, hbody⟩⟩
    exact ⟨⟨name, body⟩, hname, hbody⟩

theorem ChatFrame.fits_iff {frame : ChatFrame} :
    frame.Fits ↔ ∃ message, ChatFrame.ofMessage message = frame := by
  constructor
  · intro hfits
    obtain ⟨message, hsender, hbody⟩ := Message.exists_iff_fits.2 hfits
    refine ⟨message, ?_⟩
    rw [ofMessage, hsender, hbody]
  · rintro ⟨message, rfl⟩
    exact ⟨message.sender.fits, message.body.length_le⟩

/-- What does not fit is refused for the limit that it breaks. -/
theorem ChatFrame.exists_error {frame : ChatFrame} (h : ¬frame.Fits) :
    ∃ limit, frame.toMessage = .error limit := by
  cases hmessage : frame.toMessage with
  | error limit => exact ⟨limit, rfl⟩
  | ok message => exact absurd (fits_iff.2 ⟨message, ofMessage_of_toMessage hmessage⟩) h

theorem Name.exists_error {text : String} (h : ¬Name.Fits text) :
    ∃ limit, Name.ofString text = .error limit := by
  cases hname : Name.ofString text with
  | error limit => exact ⟨limit, rfl⟩
  | ok name => exact absurd (Name.fits_iff.2 ⟨name, Name.text_of_ofString hname⟩) h

/-! ### What comes in -/

namespace Server

namespace Incident

/-- The chat frames that come in with an incident. -/
def frames : Incident → List ChatFrame
  | .request posted => (submitted posted).toOption.toList
  | .receive _ (.frame (.text text)) => (ChatFrame.reader.read text).toOption.toList
  | .submit message => [ChatFrame.ofMessage message]
  | _ => []

/-- The names that somebody asks to listen under. -/
def wanted : Incident → List String
  | .request asking =>
    ((Text.Form.pairs asking.target.query).filter fun pair => pair.1 == "name").map Prod.snd
  | _ => []

/-- The texts that come in where a name stands. -/
def names (incident : Incident) : List String :=
  incident.frames.map ChatFrame.sender ++ incident.wanted

/-- The texts that come in where a body stands. -/
def bodies (incident : Incident) : List String := incident.frames.map ChatFrame.text

end Incident

/-- All names and bodies that come in with incidents. -/
def carried (incidents : List (Timestamp × Incident)) : Vocabulary where
  names name := ∃ incident ∈ incidents, name.text ∈ incident.2.names
  bodies body := ∃ incident ∈ incidents, body.text ∈ incident.2.bodies

variable {server : Server} {time : Timestamp} {incident : Incident} {vocabulary : Vocabulary}

/-- A message whose frame comes in is made of what comes in. -/
theorem says_of_frame (hnames : ∀ name, name.text ∈ incident.names → vocabulary.names name)
    (hbodies : ∀ body, body.text ∈ incident.bodies → vocabulary.bodies body) {message : Message}
    (h : ChatFrame.ofMessage message ∈ incident.frames) : vocabulary.Says message := by
  refine ⟨hnames _ (List.mem_append_left _ ?_), hbodies _ ?_⟩
  · exact List.mem_map.2 ⟨_, h, rfl⟩
  · exact List.mem_map.2 ⟨_, h, rfl⟩

theorem ok_of_toOption {ε α : Type} {result : Except ε α} {a : α} (h : result.toOption = some a) :
    result = .ok a := by
  cases result with
  | error e => cases h
  | ok b =>
    cases h
    rfl

theorem pairs_of_listenName {query : String} {name : Name} (h : listenName query = .ok name) :
    ∃ key, (Text.Form.pairs query).filter (fun pair => pair.1 == "name") = [(key, name.text)] := by
  unfold listenName at h
  split at h
  · rename_i key text hpairs
    refine ⟨key, ?_⟩
    cases hname : Name.ofString text with
    | error limit =>
      rw [hname] at h
      cases h
    | ok name' =>
      rw [hname] at h
      cases h
      rw [hpairs, Name.text_of_ofString hname]
  · cases h

/-- The message of a text is the one whose chat frame is read in it. -/
theorem message?_eq_some_iff {text : String} {message : Message} :
    Incoming.message? text = some message ↔
      ChatFrame.reader.read text = .ok (ChatFrame.ofMessage message) := by
  unfold Incoming.message?
  constructor
  · intro h
    cases hread : ChatFrame.reader.read text with
    | error fault =>
      rw [hread] at h
      cases h
    | ok frame =>
      rw [hread] at h
      dsimp only at h
      rw [ChatFrame.ofMessage_of_toMessage (ok_of_toOption h)]
  · intro hread
    rw [hread]
    dsimp only
    rw [ChatFrame.toMessage_ofMessage]
    rfl

theorem message?_eq_none_iff {text : String} : Incoming.message? text = none ↔
    ∀ frame, ChatFrame.reader.read text = .ok frame → ¬frame.Fits := by
  constructor
  · intro h frame hread hfits
    obtain ⟨message, rfl⟩ := ChatFrame.fits_iff.1 hfits
    cases h.symm.trans (message?_eq_some_iff.2 hread)
  · intro h
    cases hmessage : Incoming.message? text with
    | none => rfl
    | some message =>
      exact absurd (ChatFrame.fits_iff.2 ⟨message, rfl⟩) (h _ (message?_eq_some_iff.1 hmessage))

/-- What a request asks of the hub is made of what comes in with it. -/
theorem drawn_of_asked? {request : Http.Request} {move : Move}
    (hnames : ∀ name, name.text ∈ (Incident.request request).names → vocabulary.names name)
    (hbodies : ∀ body, body.text ∈ (Incident.request request).bodies → vocabulary.bodies body)
    (h : asked? request = some move) : move.Drawn vocabulary := by
  unfold asked? at h
  split at h
  · cases h
  · rename_i route hroute
    split at h
    · cases route with
      | health => cases h
      | names => cases h
      | chat =>
        simp only [routed?, Option.ite_none_right_eq_some] at h
        obtain ⟨_, heq⟩ := h
        cases heq
        trivial
      | messages =>
        simp only [routed?] at h
        cases hsubmitted : submitted request with
        | error response =>
          rw [hsubmitted] at h
          cases h
        | ok frame =>
          rw [hsubmitted] at h
          obtain ⟨message, hmessage, rfl⟩ := Option.map_eq_some_iff.1 h
          have hframe : frame.toMessage = .ok message := ok_of_toOption hmessage
          refine says_of_frame hnames hbodies ?_
          rw [ChatFrame.ofMessage_of_toMessage hframe, Incident.frames, hsubmitted]
          exact List.mem_singleton.2 rfl
      | listen =>
        simp only [routed?, Option.ite_none_right_eq_some] at h
        obtain ⟨_, hlisten⟩ := h
        obtain ⟨name, hname, rfl⟩ := Option.map_eq_some_iff.1 hlisten
        obtain ⟨key, hpairs⟩ := pairs_of_listenName (ok_of_toOption hname)
        refine hnames _ (List.mem_append_right _ ?_)
        rw [Incident.wanted, hpairs]
        exact List.mem_singleton.2 rfl
    · cases h

/-- **What an incident does to the hub brings in only what comes in with it.** -/
theorem drawn_of_move? {move : Move}
    (hnames : ∀ name, name.text ∈ incident.names → vocabulary.names name)
    (hbodies : ∀ body, body.text ∈ incident.bodies → vocabulary.bodies body)
    (h : server.move? incident = some move) : move.Drawn vocabulary := by
  cases incident with
  | request request => exact drawn_of_asked? hnames hbodies h
  | receive id incoming =>
    simp only [move?] at h
    split at h
    · cases h
    · rename_i socket hsocket
      simp only [Option.ite_none_right_eq_some] at h
      obtain ⟨_, hheard⟩ := h
      unfold heard? at hheard
      split at hheard
      · rename_i session hrole
        split at hheard
        · cases hheard
          trivial
        · obtain ⟨arrival, harrival, rfl⟩ := Option.map_eq_some_iff.1 hheard
          cases arrival with
          | cancelled => trivial
          | failed reason => trivial
          | message message =>
            -- a message arrives only in a text frame
            cases incoming with
            | lost => cases harrival
            | violated reason => cases harrival
            | frame frame =>
              cases frame with
              | text text =>
                obtain ⟨m, hm, heq⟩ := Option.map_eq_some_iff.1 harrival
                cases heq
                refine says_of_frame hnames hbodies ?_
                rw [Incident.frames, message?_eq_some_iff.1 hm]
                exact List.mem_singleton.2 rfl
              | _ => cases harrival
      · split at hheard
        all_goals cases hheard
        all_goals trivial
  | turn id =>
    cases h
    trivial
  | write id =>
    simp only [move?] at h
    split at h
    · cases h
    · simp only [Option.ite_none_right_eq_some] at h
      obtain ⟨_, hread⟩ := h
      obtain ⟨endpoint, _, rfl⟩ := Option.map_eq_some_iff.1 hread
      trivial
  | submit message =>
    cases h
    refine says_of_frame hnames hbodies ?_
    rw [Incident.frames]
    exact List.mem_singleton.2 rfl
  | shutDown =>
    cases h
    trivial

theorem drawn_moves (incidents : List (Timestamp × Incident))
    (hnames : ∀ incident ∈ incidents, ∀ name : Name,
      name.text ∈ incident.2.names → vocabulary.names name)
    (hbodies : ∀ incident ∈ incidents, ∀ body : Body,
      body.text ∈ incident.2.bodies → vocabulary.bodies body) :
    ∀ move ∈ server.moves incidents, move.2.Drawn vocabulary := by
  induction incidents generalizing server with
  | nil => exact fun move hmove => absurd hmove List.not_mem_nil
  | cons incident rest ih =>
    intro move hmove
    rcases List.mem_append.1 hmove with hnow | hlater
    · obtain ⟨first, hfirst, rfl⟩ := List.mem_map.1 hnow
      exact drawn_of_move? (hnames incident List.mem_cons_self)
        (hbodies incident List.mem_cons_self) (Option.mem_toList.1 hfirst)
    · refine ih (fun later hlater => ?_) (fun later hlater => ?_) move hlater
      · exact hnames later (List.mem_cons_of_mem _ hlater)
      · exact hbodies later (List.mem_cons_of_mem _ hlater)

/-- **A server keeps only what came in.** -/
theorem drawn_run (settings : HubSettings) (incidents : List (Timestamp × Incident)) :
    ((new settings).run incidents).hub.store.Drawn (carried incidents) := by
  have hmoves : ∀ move ∈ (new settings).moves incidents, move.2.Drawn (carried incidents) := by
    refine drawn_moves incidents ?_ ?_
    · exact fun incident hincident name hname => ⟨incident, hincident, hname⟩
    · exact fun incident hincident body hbody => ⟨incident, hincident, hbody⟩
  rw [← (staged_run settings incidents).hub_eq]
  exact (Stage.drawn_run settings hmoves).store

/-! ### Text frames -/

/-- **What becomes of a text frame that a client sends to its session.** -/
structure Hears (server : Server) (time : Timestamp) (socket : SocketId) (id : SessionId)
    (session : Session) (text : String) : Prop where
  /-- What is no chat frame, or does not fit, changes nothing. -/
  refused : (∀ frame, ChatFrame.reader.read text = .ok frame → ¬frame.Fits) →
    server.receive time socket (.frame (.text text)) = some server
  /-- What fits is the last thing that the session has to read, and the next thing that it finds if
  there was nothing to be found. -/
  taken : ∀ frame, ChatFrame.reader.read text = .ok frame → frame.Fits →
    ∃ message after, ChatFrame.ofMessage message = frame ∧
      server.receive time socket (.frame (.text text)) = some after ∧
      after.hub.session? id = some session ∧
      (after.hub.store.inbound session.inbound).arrivals =
        (server.hub.store.inbound session.inbound).arrivals ++ [.message message] ∧
      (session.found? server.hub.store = none →
        session.found? after.hub.store = some (.message message))

theorem receive_text {socket : Socket} {id : SocketId} {session : SessionId}
    (hsocket : server.socket? id = some socket) (hfinish : socket.finish = none)
    (hrole : socket.role = .chat session) (text : String) :
    server.receive time id (.frame (.text text)) = some { server with
      hub :=
        match Incoming.message? text with
        | none => server.hub
        | some message => (server.hub.send session (.message message)).2 } := by
  have hclose : (Incoming.frame (.text text)).isClose = false := by simp [Incoming.isClose]
  have hhear : hear server.hub session (.frame (.text text)) =
      (none, match Incoming.message? text with
        | none => server.hub
        | some message => (server.hub.send session (.message message)).2) := by
    rw [hear, hclose]
    simp only [Incoming.arrival?]
    cases Incoming.message? text <;> simp
  have hsame : ({ socket with finish := none } : Socket) = socket := by
    rw [← hfinish]
  rw [receive_eq _ hsocket hfinish, hrole]
  dsimp only
  rw [hhear, hrole.symm, hsame]
  exact congrArg some (put_self hsocket)

theorem hears {socket : Socket} {place : SocketId} {id : SessionId} {session : Session}
    (hsocket : server.socket? place = some socket) (hfinish : socket.finish = none)
    (hrole : socket.role = .chat id) (hsession : server.hub.session? id = some session)
    (hover : session.isOver = false)
    (hopen : (server.hub.store.inbound session.inbound).isOpen = true) (time : Timestamp)
    (text : String) : server.Hears time place id session text where
  refused h := by
    rw [receive_text hsocket hfinish hrole, message?_eq_none_iff.2 h]
  taken frame hread hfits := by
    obtain ⟨message, rfl⟩ := ChatFrame.fits_iff.1 hfits
    have hmessage : Incoming.message? text = some message := message?_eq_some_iff.2 hread
    have hsend : (server.hub.send id (.message message)).2 = { server.hub with
        store := server.hub.store.updateInbound session.inbound (·.push (.message message)) } := by
      rw [Hub.send, hsession]
      simp only [hopen, hover, if_true]
      rfl
    have hstream := Store.lt_of_isOpen hopen
    refine ⟨message, _, rfl, receive_text hsocket hfinish hrole text, ?_⟩
    rw [hmessage]
    dsimp only
    rw [hsend]
    refine ⟨hsession, ?_, fun hwaits => Session.found?_push hwaits hstream message⟩
    exact congrArg Inbound.arrivals (Store.inbound_updateInbound_self _ hstream)

/-- **What a session does with a message that it finds.** -/
structure TakesUp (server : Server) (time : Timestamp) (id : SessionId) (session : Session)
    (message : Message) : Prop where
  /-- From then on it speaks under the name in its first message, and holds it. -/
  greeted : session.state = .awaitingHello →
    (server.step time (.turn id)).hub.session? id =
        some { session with state := .active message.sender } ∧
      (server.step time (.turn id)).hub.store.Binds message.sender session.endpoint ∧
      (server.hub.settings.policy = .broadcast →
        server.hub.store.HandsOut (server.step time (.turn id)).hub.store ⟨message, time⟩)
  relayed : ∀ name, session.state = .active name →
    server.hub.store.HandsOut (server.step time (.turn id)).hub.store
      ⟨message.sentAs name, time⟩

theorem takesUp {stage : Stage} {log : List Event} (hstaged : server.Staged stage)
    (hsound : stage.Sound log) {id : SessionId} {session : Session} {message : Message}
    (hsession : server.hub.session? id = some session)
    (hfound : session.found? server.hub.store = some (.message message)) (time : Timestamp) :
    server.TakesUp time id session message := by
  have hhub := hstaged.hub_eq
  have hstep : (stage.step time (.turn id)).hub = (server.step time (.turn id)).hub := by
    rw [Stage.step, hhub]
    rfl
  rw [← hhub] at hsession hfound
  refine ⟨fun hstate => ?_, fun name hstate => ?_⟩
  · rw [← hstep, ← hhub]
    exact Stage.greeted hsession hfound hsound hstate
  · rw [← hstep, ← hhub]
    exact (Stage.relayed hsession hfound hsound hstate).2

/-! ### Submitted messages -/

/-- **What becomes of a request that submits a message.** -/
structure Posts (server : Server) (time : Timestamp) (request : Http.Request) : Prop where
  unreadable : ∀ response, submitted request = .error response →
    server.request time request = (.response response, server)
  /-- What does not fit is refused for the limit that it breaks, and changes nothing. -/
  refused : ∀ frame, submitted request = .ok frame → ¬frame.Fits →
    ∃ limit, frame.toMessage = .error limit ∧
      server.request time request = (.response (complain 400 limit.message), server)
  /-- What fits is handed out as it is, for a sender that is live. -/
  taken : ∀ frame, submitted request = .ok frame → frame.Fits →
    ∃ message, ChatFrame.ofMessage message = frame ∧
      (server.hub.store.Live message.sender →
        (∃ report, (server.request time request).1 =
          .response (.json 202 (receipt report).json)) ∧
        server.hub.store.HandsOut (server.request time request).2.hub.store ⟨message, time⟩) ∧
      (¬server.hub.store.Live message.sender → (server.request time request).1 =
        .response (complain 404 (NotSubscribed.mk message.sender.text).message))

/-- A request on the path of messages is served by posting what it submits. -/
theorem request_post {request : Http.Request}
    (hpath : request.target.path = Route.messages.path) (hmethod : request.method = "POST")
    (time : Timestamp) : server.request time request =
      match submitted request with
      | .error response => (.response response, server)
      | .ok frame => (.response (post time frame server.hub).1,
          { server with hub := (post time frame server.hub).2 }) := by
  have hroute : Route.ofPath? request.target.path = some .messages := by
    rw [hpath]
    decide
  have htaken : Route.messages.methods.contains request.method = true := by
    rw [hmethod]
    decide
  have hget : ¬request.method = "HEAD" := by
    rw [hmethod]
    decide
  rw [Server.request, reply, hroute]
  simp only [htaken, if_true, serve, hget, if_false]
  cases submitted request with
  | error response => rfl
  | ok frame => rfl

theorem posts (hdistinct : server.hub.store.Distinct) {request : Http.Request}
    (hpath : request.target.path = Route.messages.path) (hmethod : request.method = "POST")
    (time : Timestamp) : server.Posts time request where
  unreadable response h := by rw [request_post hpath hmethod, h]
  refused frame h hfits := by
    obtain ⟨limit, hlimit⟩ := ChatFrame.exists_error hfits
    refine ⟨limit, hlimit, ?_⟩
    rw [request_post hpath hmethod, h]
    simp only [post, hlimit]
  taken frame h hfits := by
    obtain ⟨message, rfl⟩ := ChatFrame.fits_iff.1 hfits
    refine ⟨message, rfl, fun hlive => ?_, fun hdead => ?_⟩
    · obtain ⟨⟨report, hok⟩, hhanded⟩ := Hub.handsOut_submit hdistinct hlive
      have hpair : server.hub.submit time message =
          (.ok report, (server.hub.submit time message).2) := Prod.ext hok rfl
      have hpost : post time (ChatFrame.ofMessage message) server.hub =
          (.json 202 (receipt report).json, (server.hub.submit time message).2) := by
        rw [post, ChatFrame.toMessage_ofMessage]
        dsimp only
        rw [hpair]
      rw [request_post hpath hmethod, h]
      dsimp only
      rw [hpost]
      exact ⟨⟨report, rfl⟩, hhanded⟩
    · have hrun := Program.mayRun_run time (Program.submit message) server.hub.store
      have herror : (server.hub.submit time message).1 = .error ⟨message.sender.text⟩ :=
        (Program.mayRun_submit_of_not_live hdead hrun).1
      have hpair : server.hub.submit time message =
          (.error ⟨message.sender.text⟩, (server.hub.submit time message).2) := Prod.ext herror rfl
      have hpost : (post time (ChatFrame.ofMessage message) server.hub).1 =
          complain 404 (NotSubscribed.mk message.sender.text).message := by
        rw [post, ChatFrame.toMessage_ofMessage]
        dsimp only
        rw [hpair]
      rw [request_post hpath hmethod, h]
      dsimp only
      rw [hpost]

/-! ### Names to listen under -/

/-- **What becomes of a request to listen under a name.** -/
structure Enrols (server : Server) (time : Timestamp) (request : Http.Request) (value : String) :
    Prop where
  /-- A text that does not fit is refused for the limit that it breaks, and changes nothing. -/
  refused : ¬Name.Fits value → ∃ limit, Name.ofString value = .error limit ∧
    server.request time request = (.response (complain 400 limit.message), server)
  /-- One that fits is held, as long as the hub runs. -/
  taken : Name.Fits value → server.hub.store.stopped = false →
    ∃ name endpoint, name.text = value ∧
      (server.request time request).1 = .socket ⟨server.sockets.size⟩ ∧
      (server.request time request).2.socket? ⟨server.sockets.size⟩ =
        some ⟨.listen ⟨name, endpoint, true⟩, [], none⟩ ∧
      (server.request time request).2.hub.store.Binds name endpoint

theorem enrols {request : Http.Request} {key value : String}
    (hpath : request.target.path = Route.listen.path) (hrefusal : socketRefusal? request = none)
    (hpairs : (Text.Form.pairs request.target.query).filter (fun pair => pair.1 == "name") =
      [(key, value)]) (time : Timestamp) : server.Enrols time request value := by
  have hname : listenName request.target.query =
      (Name.ofString value).mapError fun limit => complain 400 limit.message := by
    rw [listenName, hpairs]
  refine ⟨fun hfits => ?_, fun hfits hrunning => ?_⟩
  · obtain ⟨limit, hlimit⟩ := Name.exists_error hfits
    refine ⟨limit, hlimit, ?_⟩
    have hrefused : listenName request.target.query = .error (complain 400 limit.message) := by
      rw [hname, hlimit]
      rfl
    have hroute : Route.ofPath? request.target.path = some .listen := by
      rw [hpath]
      decide
    have hmethod : request.method = "GET" := method_of_socketRefusal? hrefusal
    have htaken : Route.listen.methods.contains request.method = true := by
      rw [hmethod]
      decide
    have hget : ¬request.method = "HEAD" := by
      rw [hmethod]
      decide
    rw [Server.request, reply, hroute]
    simp only [htaken, if_true, serve, hrefused, Except.map, handshake, hrefusal, hget, if_false]
  · obtain ⟨name, rfl⟩ := Name.fits_iff.1 hfits
    have hok : listenName request.target.query = .ok name := by
      rw [hname, Name.ofString_text]
      rfl
    obtain ⟨-, hrequest⟩ := request_of_listen time server hpath hrefusal hok
    obtain ⟨hlistener, hbinds, _⟩ :=
      Program.openListener_binds time hrunning server.hub.settings.capacity name
    refine ⟨name, (server.hub.store.newEndpoint server.hub.settings.capacity).1, rfl, ?_, ?_, ?_⟩
    · rw [hrequest]
    · rw [hrequest, ← hlistener]
      exact Array.getElem?_push_size
    · rw [hrequest]
      exact hbinds

end Server

/-! ### Ways to write them -/

theorem Text.Utf8.length_encode_le (text : String) :
    (Text.Utf8.encode text).length ≤ 4 * text.length := by
  rw [encode, ← String.length_toList]
  induction text.toList with
  | nil => exact Nat.le_refl _
  | cons c cs ih =>
    have hc : (String.utf8EncodeChar c).length ≤ 4 := by
      rw [String.length_utf8EncodeChar]
      exact c.utf8Size_le_four
    rw [List.flatMap_cons, List.length_append, List.length_cons]
    omega

open Json Json.Reader

variable {blanks : Nat} {source : String} {ts : List Token}

/-- The texts of a chat frame within the limits are short, however they are written. -/
theorem ChatFrame.length_le_of_said {frame : ChatFrame} (hfits : frame.Fits) (h : frame.Said ts)
    (hwording : Wording blanks source.toList ts) : source.length ≤ blanks + 121345 := by
  obtain ⟨⟨_, hsender⟩, htext⟩ := hfits
  have hbody : frame.text.length ≤ 10000 := htext
  have hkeys : "from".length = 4 ∧ "message".length = 7 := by decide
  have hspan := span_object h
  have hlength := hwording.length_le
  simp only [List.map_cons, List.map_nil, List.sum_cons, List.sum_nil, Token.span] at hspan
  rw [String.length_toList] at hlength
  omega

/-- A text in which a chat frame is written: it is read, and where the chat frame is within the
limits it is short enough for a text frame and for the body of a request. -/
structure ChatFrame.Written (frame : ChatFrame) (source : String) : Prop where
  read : ChatFrame.reader.read source = .ok frame
  framed : frame.Fits → Incoming.ofFrame (.text source) = .frame (.text source)
  submitted : frame.Fits → ∀ request : Http.Request,
    ((request.header? "content-type").bind Http.MediaType.ofText?).any
      Http.MediaType.isJson = true →
    request.body = Text.Utf8.encode source → Server.submitted request = .ok frame

theorem ChatFrame.written_of_said {frame : ChatFrame} (h : frame.Said ts)
    (hwording : Wording blanks source.toList ts) (hblanks : blanks ≤ 400000) :
    frame.Written source where
  read := read_of_said h hwording
  framed hfits := by
    have hlength := length_le_of_said hfits h hwording
    have hsize := utf8ByteSize_le source
    have hsmall : source.utf8ByteSize ≤ Frame.limit := by
      rw [Frame.limit]
      omega
    simp only [Incoming.ofFrame, Frame.fault?, Frame.fault?.tooLong, hsmall, if_true]
  submitted hfits request hmedia hbody := by
    have hlength := length_le_of_said hfits h hwording
    have hsize := Text.Utf8.length_encode_le source
    have hsmall : request.body.length ≤ Server.bodyLimit := by
      rw [hbody, Server.bodyLimit]
      omega
    have hread : ChatFrame.reader.readBytes request.body = .ok frame := by
      rw [hbody, Reader.readBytes, sourceOfBytes_encode]
      exact read_of_said h hwording
    rw [Server.submitted, if_pos hmedia, if_pos hsmall, hread]

/-- A value is read if and only if it fits, and then it is what was written. -/
def Json.Reader.Admits {α τ : Type} (reader : Reader α) (texts : α → τ) (source : String)
    (fits : Prop) (written : τ) : Prop :=
  ((∃ a, reader.read source = .ok a) ↔ fits) ∧ ∀ a, reader.read source = .ok a → texts a = written

/-- **What the values of the domain are read from**: whatever the text, what is read of it is what
it holds; and what is written in it is read if and only if it is within the limits. -/
structure ReadsAsWritten (source : String) : Prop where
  name_held : ∀ name, Name.reader.read source = .ok name → Reader.text.read source = .ok name.text
  body_held : ∀ body, Body.reader.read source = .ok body → Reader.text.read source = .ok body.text
  message_held : ∀ message, Message.reader.read source = .ok message →
    Message.rawReader.read source = .ok message.texts
  delivery_held : ∀ delivery, Delivery.reader.read source = .ok delivery →
    Delivery.rawReader.read source = .ok delivery.texts
  name : ∀ blanks value, Wording blanks source.toList [.text (some value)] →
    Name.reader.Admits Name.text source (Name.Fits value) value
  body : ∀ blanks value, Wording blanks source.toList [.text (some value)] →
    Body.reader.Admits Body.text source (Body.Fits value) value
  message : ∀ blanks ts sender body, Message.Said sender body ts →
    Wording blanks source.toList ts →
    Message.reader.Admits Message.texts source (Name.Fits sender ∧ Body.Fits body) (sender, body)
  delivery : ∀ blanks ts sender body stamp, Delivery.Said sender body stamp ts →
    Wording blanks source.toList ts →
    Delivery.reader.Admits Delivery.texts source (Name.Fits sender ∧ Body.Fits body)
      ((sender, body), stamp)

theorem readsAsWritten (source : String) : ReadsAsWritten source where
  name_held _ := Name.shows_reader.read
  body_held _ := Body.shows_reader.read
  message_held _ := Message.texts_of_read
  delivery_held _ := Delivery.texts_of_read
  name blanks value hwording := by
    refine ⟨?_, fun name h => (Name.read_iff_of_said hwording).1 h⟩
    simp only [Name.read_iff_of_said hwording]
    exact Name.fits_iff.symm
  body blanks value hwording := by
    refine ⟨?_, fun body h => (Body.read_iff_of_said hwording).1 h⟩
    simp only [Body.read_iff_of_said hwording]
    exact Body.fits_iff.symm
  message blanks ts sender body h hwording := by
    refine ⟨?_, fun message hread => ?_⟩
    · simp only [Message.read_iff_of_said h hwording]
      exact Message.exists_iff_fits
    · obtain ⟨hsender, hbody⟩ := (Message.read_iff_of_said h hwording).1 hread
      rw [Message.texts, hsender, hbody]
  delivery blanks ts sender body stamp h hwording := by
    refine ⟨?_, fun delivery hread => ?_⟩
    · simp only [Delivery.read_iff_of_said h hwording]
      rw [← Message.exists_iff_fits]
      constructor
      · rintro ⟨delivery, hsender, hbody, _⟩
        exact ⟨delivery.message, hsender, hbody⟩
      · rintro ⟨message, hsender, hbody⟩
        exact ⟨⟨message, stamp⟩, hsender, hbody, rfl⟩
    · obtain ⟨hsender, hbody, hstamp⟩ := (Delivery.read_iff_of_said h hwording).1 hread
      rw [Delivery.texts, Message.texts, hsender, hbody, hstamp]

/-! ### All ways in -/

/-- **Only valid names and bodies get in, and valid ones get in unchanged.** Names have 1 to 100
characters and bodies at most 10000. -/
structure Server.LetsInValid (server : Server) (incidents : List (Timestamp × Incident)) :
    Prop where
  /-- Every name that is bound is valid, and stands in something that came in. -/
  bound : ∀ n e, server.hub.store.Binds n e →
    Name.Fits n.text ∧ ∃ incident ∈ incidents, n.text ∈ incident.2.names
  /-- So is and does every sender in a queue, -/
  sender : ∀ e, ∀ d ∈ (server.hub.store.endpoint e).unread,
    Name.Fits d.sender.text ∧ ∃ incident ∈ incidents, d.sender.text ∈ incident.2.names
  /-- and every body in a queue. -/
  body : ∀ e, ∀ d ∈ (server.hub.store.endpoint e).unread,
    Body.Fits d.message.body.text ∧
      ∃ incident ∈ incidents, d.message.body.text ∈ incident.2.bodies
  /-- A text frame of a session's client is heard if what it holds is valid. -/
  hears : ∀ place socket id session, server.socket? place = some socket → socket.finish = none →
    socket.role = .chat id → server.hub.session? id = some session → session.isOver = false →
    (server.hub.store.inbound session.inbound).isOpen = true →
    ∀ time text, server.Hears time place id session text
  /-- The session takes up what it finds. -/
  takesUp : ∀ id session message, server.hub.session? id = some session →
    session.found? server.hub.store = some (.message message) →
    ∀ time, server.TakesUp time id session message
  /-- A submitted message is taken if it is valid. -/
  posts : ∀ request, request.target.path = Route.messages.path → request.method = "POST" →
    ∀ time, server.Posts time request
  /-- The name in a query is taken if it is valid. -/
  enrols : ∀ request key value, request.target.path = Route.listen.path →
    socketRefusal? request = none →
    (Text.Form.pairs request.target.query).filter (fun pair => pair.1 == "name") = [(key, value)] →
    ∀ time, server.Enrols time request value

/-- **However a text is written, it is the text that counts.** -/
structure ReadHoweverWritten : Prop where
  frame : ∀ frame ts blanks source, ChatFrame.Said frame ts → Wording blanks source.toList ts →
    blanks ≤ 400000 → frame.Written source
  query : ∀ value query written,
    Text.Spelled Text.Form.Denotes written (Text.Utf8.encode value) →
    Text.Utf8.encode query = Text.Utf8.encode "name=" ++ written →
    Text.Form.pairs query = [("name", value)]
  /-- The same holds of the JSON values of the domain. -/
  value : ∀ source, ReadsAsWritten source

theorem readHoweverWritten : ReadHoweverWritten where
  frame _ _ _ _ hsaid hwording hblanks := ChatFrame.written_of_said hsaid hwording hblanks
  query _ _ _ hspelled hquery := Text.Form.pairs_spelled hquery hspelled
  value := readsAsWritten

/-- **Only valid names and bodies get in, and valid ones get in unchanged**, whatever comes in from
outside, in whichever order, and however it is written. -/
theorem only_valid_texts_get_in (settings : HubSettings)
    (incidents : List (Timestamp × Server.Incident)) :
    ((Server.new settings).run incidents).LetsInValid incidents ∧ ReadHoweverWritten := by
  have hstaged := Server.staged_run settings incidents
  have hsound := Stage.sound_run settings ((Server.new settings).moves incidents)
  have hdrawn := Server.drawn_run settings incidents
  have hdistinct : ((Server.new settings).run incidents).hub.store.Distinct := by
    have hstage := hsound.books.distinct
    rwa [hstaged.hub_eq] at hstage
  refine ⟨?_, readHoweverWritten⟩
  constructor
  case bound => exact fun n e hb => ⟨n.fits, hdrawn.bound hb⟩
  case sender => exact fun e d hd => ⟨d.sender.fits, (hdrawn.queued hd).1⟩
  case body => exact fun e d hd => ⟨d.message.body.length_le, (hdrawn.queued hd).2⟩
  case hears =>
    intro place socket id session hsocket hfinish hrole hsession hover hopen time text
    exact Server.hears hsocket hfinish hrole hsession hover hopen time text
  case takesUp =>
    intro id session message hsession hfound time
    exact Server.takesUp hstaged hsound hsession hfound time
  case posts =>
    intro request hpath hmethod time
    exact Server.posts hdistinct hpath hmethod time
  case enrols =>
    intro request key value hpath hrefusal hpairs time
    exact Server.enrols hpath hrefusal hpairs time

/-! ### Names outside the basic plane -/

namespace Sample

/-- How a grinning face is written in a text that has only ASCII characters. -/
def escapedFace : List Char := "\\ud83d\\ude00".toList

/-- A grinning face: one character, which takes four bytes. -/
def face : Char := Char.ofNat 0x1F600

/-- So many grinning faces. -/
def faces (count : Nat) : String := String.ofList (List.replicate count face)

/-- A chat frame with a name of so many faces, in ASCII. -/
def facesFrame (count : Nat) : String :=
  String.ofList ('\x7b' :: '"' :: ("from".toList ++ '"' :: ':' :: '"' ::
    ((List.replicate count escapedFace).flatten ++ '"' :: ',' :: '"' :: ("message".toList ++
      '"' :: ':' :: '"' :: '"' :: ['\x7d']))))

/-- A client has asked for a socket to chat. -/
def opened : List (Timestamp × Server.Incident) :=
  [(⟨1⟩, .request (Client.socketRequest ⟨Server.Route.chat.path, ""⟩))]

theorem fits_faces {count : Nat} :
    ChatFrame.Fits ⟨faces count, ""⟩ ↔ 1 ≤ count ∧ count ≤ 100 := by
  have hlength : (faces count).length = count := by
    rw [faces, String.length_ofList, List.length_replicate]
  have hempty : Body.Fits "" := Nat.zero_le _
  simp only [ChatFrame.Fits, Name.Fits, hlength, hempty, and_true]

theorem spelled_faces (count : Nat) :
    Text.Spelled Quoted.Denotes (List.replicate count escapedFace).flatten
      (faces count).toList := by
  refine ⟨List.replicate count escapedFace, ?_, rfl⟩
  have hface : Quoted.Denotes escapedFace face :=
    .pair (show _ = some 0xD83D by decide) (show _ = some 0xDE00 by decide) (by decide) (by decide)
      (by decide)
  rw [faces, String.toList_ofList]
  induction count with
  | zero => exact .nil
  | succ count ih => exact .cons hface ih

theorem spelled_plain {text : String} (h : text.toList.flatMap Quoted.escape = text.toList) :
    Text.Spelled Quoted.Denotes text.toList text.toList := by
  have hspelled := Quoted.spelled_escape text.toList
  rwa [h] at hspelled

theorem read_facesFrame (count : Nat) :
    ChatFrame.reader.read (facesFrame count) = .ok ⟨faces count, ""⟩ := by
  have hwording : Wording 0 (facesFrame count).toList (objectTokens
      [("from", [.text (some (faces count))]), ("message", [.text (some "")])]) := by
    change Wording 0 (String.ofList _).toList _
    rw [String.toList_ofList]
    refine .punctuation (by decide) (.quoted (spelled_plain (by decide)) ?_)
    refine .punctuation (by decide) (.quoted (spelled_faces count) ?_)
    refine .punctuation (by decide) (.quoted (spelled_plain (by decide)) ?_)
    have hempty : Text.Spelled Quoted.Denotes [] "".toList := ⟨[], .nil, rfl⟩
    refine .punctuation (by decide) (.quoted hempty ?_)
    exact .punctuation (by decide) .nil
  exact ChatFrame.read_of_said ⟨_, .refl _, rfl⟩ hwording

end Sample

/-- A hundred faces are a name, though they take 400 bytes and come in as 1200 characters; one more
is too many. -/
theorem only_valid_texts_get_in_faces :
    let server := (Server.new {}).run Sample.opened
    (∃ message : Message, ∃ after, message.sender.text = Sample.faces 100 ∧
      server.receive ⟨2⟩ ⟨0⟩ (.frame (.text (Sample.facesFrame 100))) = some after ∧
      (after.step ⟨3⟩ (.turn ⟨0⟩)).hub.store.Binds message.sender ⟨0⟩) ∧
    server.receive ⟨2⟩ ⟨0⟩ (.frame (.text (Sample.facesFrame 101))) = some server := by
  intro server
  have hopened : (Server.new {}).run Sample.opened = server := rfl
  have hserver : server = ((Server.new {}).openSocket ⟨1⟩ .chat).2 := by
    rw [← hopened, Sample.opened, Server.run_singleton, Server.step, Server.request_chat]
  clear_value server
  have hsocket : server.socket? ⟨0⟩ = some ⟨.chat ⟨0⟩, [], none⟩ := by
    rw [hserver]
    decide
  have hsession : server.hub.session? ⟨0⟩ = some ⟨⟨0⟩, ⟨0⟩, .awaitingHello⟩ := by
    rw [hserver]
    decide
  have hopen : (server.hub.store.inbound ⟨0⟩).isOpen = true := by
    rw [hserver]
    decide
  have hwaits : Session.found? ⟨⟨0⟩, ⟨0⟩, .awaitingHello⟩ server.hub.store = none := by
    rw [hserver]
    decide
  have hheard : ∀ text, server.Hears ⟨2⟩ ⟨0⟩ ⟨0⟩ ⟨⟨0⟩, ⟨0⟩, .awaitingHello⟩ text := by
    have hentry := (only_valid_texts_get_in {} Sample.opened).1
    rw [hopened] at hentry
    exact hentry.hears ⟨0⟩ _ ⟨0⟩ _ hsocket rfl rfl hsession rfl hopen ⟨2⟩
  have htaken : ∀ text sender, ChatFrame.reader.read text = .ok ⟨sender, ""⟩ →
      ChatFrame.Fits ⟨sender, ""⟩ → ∃ message : Message, ∃ after, message.sender.text = sender ∧
        server.receive ⟨2⟩ ⟨0⟩ (.frame (.text text)) = some after ∧
        (after.step ⟨3⟩ (.turn ⟨0⟩)).hub.store.Binds message.sender ⟨0⟩ := by
    intro text sender hread hfits
    obtain ⟨message, after, hframe, hreceived, hkept, _, hfound⟩ :=
      (hheard text).taken _ hread hfits
    -- a server on which the frame has come in runs on
    have hstep : server.step ⟨2⟩ (.receive ⟨0⟩ (.frame (.text text))) = after := by
      rw [Server.step, hreceived, Option.getD_some]
    have hrun := (Server.run_concat hopened ⟨2⟩ (.receive ⟨0⟩ (.frame (.text text)))).trans hstep
    have hentry := (only_valid_texts_get_in {}
      (Sample.opened ++ [(⟨2⟩, Server.Incident.receive ⟨0⟩ (.frame (.text text)))])).1
    rw [hrun] at hentry
    have htakesUp := hentry.takesUp ⟨0⟩ _ message hkept (hfound hwaits) ⟨3⟩
    exact ⟨message, after, congrArg ChatFrame.sender hframe, hreceived, (htakesUp.greeted rfl).2.1⟩
  have hhundred := htaken _ _ (Sample.read_facesFrame 100) (Sample.fits_faces.2 (by decide))
  refine ⟨hhundred, (hheard (Sample.facesFrame 101)).refused fun frame hread => ?_⟩
  obtain rfl : ⟨Sample.faces 101, ""⟩ = frame :=
    Except.ok.inj ((Sample.read_facesFrame 101).symm.trans hread)
  exact fun hfits => absurd (Sample.fits_faces.1 hfits).2 (by decide)

end BroadcastChat
