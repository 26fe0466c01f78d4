/-
# What a chatting client sends

A client that was started with a name greets the hub and then sends what its
user types, line by line, until a line asks to leave or the input ends; what it
receives in between makes no difference. Its frames are
`Client.Console.chatFrames` (`Client.Console.chat_eq`), and these are what the
network sends for it (`Network.join_chat`, `Network.say_chat`,
`Network.leave_chat`).

The server reads a message out of each of them whose line is a body, and out of
no other (`Incoming.messages_chatTexts`).

Key definitions: `Client.Console.Input`, `Client.Console.wishes`,
`Client.Console.Wish.frames`, `Client.Console.chat`, `Client.Console.chatTexts`.
Key theorems: `Client.Console.chat_eq`, `Network.join_chat`,
`Incoming.message?_json`, `Incoming.messages_chatTexts`,
`ChatFrame.fault?_json`, `Incoming.ofFrame_chat`.
-/
import BroadcastChat.Proofs.Outbound

namespace BroadcastChat

namespace Client.Console

/-- What reaches a client while it talks. -/
inductive Input where
  | line (text : String)
  | delivery (frame : DeliveryFrame)

/-- The line that the user has typed. -/
def Input.line? : Input → Option String
  | .line text => some text
  | .delivery _ => none

/-- What the client makes of an input. -/
def onInput (console : Console) : Input → Console × Wish
  | .line text => console.onLine text
  | .delivery frame => (console.onDelivery frame, .nothing)

/-- What the client wants in the course of these inputs and at the end of its user's input. -/
def wishes : List Input → Console → List Wish
  | [], console => [console.onInputEnd.2]
  | input :: rest, console => (console.onInput input).2 :: wishes rest (console.onInput input).1

/-- The frames that are sent for a wish of a client of this name. -/
def Wish.frames (name : Name) : Wish → List Frame
  | .nothing => []
  | .join name => [.text (greeting name).json]
  | .say line => [.text (ChatFrame.mk name.text line).json]
  | .leave => [.close]

/-- The frames that a chatting client sends from its start with a name to its end, over a connection
that comes about and that the server does not end. -/
def chat (showClock : Bool) (name : Name) (inputs : List Input) : List Frame :=
  let (console, wish) := start true showClock (some name.text)
  (wish :: wishes inputs (console.onJoined none)).flatMap (Wish.frames name)

/-! ### Line by line -/

section

variable {console : Console} {name : Name}

theorem wishes_done {error : Option Error} (inputs : List Input)
    (h : console.phase = .done error) :
    (wishes inputs console).flatMap (Wish.frames name) = [] := by
  induction inputs generalizing console with
  | nil =>
    have hend : console.onInputEnd.2 = .nothing := by simp only [onInputEnd, h]
    rw [wishes, hend]
    rfl
  | cons input rest ih =>
    have hsame : console.onInput input = (console, .nothing) := by
      cases input with
      | line text => simp only [onInput, onLine, h]
      | delivery frame => simp only [onInput, onDelivery, h]
    rw [wishes, hsame, List.flatMap_cons, ih h]
    rfl

/-- A client that talks says its lines up to the one that asks to leave, and leaves. -/
theorem wishes_talking (inputs : List Input) (h : console.phase = .talking name) :
    (wishes inputs console).flatMap (Wish.frames name) =
      ((spoken (inputs.filterMap Input.line?)).map fun line =>
        Frame.text (ChatFrame.mk name.text line).json) ++ [.close] := by
  induction inputs generalizing console with
  | nil =>
    have hend : console.onInputEnd.2 = .leave := by simp only [onInputEnd, h, leave]
    rw [wishes, hend]
    rfl
  | cons input rest ih =>
    cases input with
    | delivery frame =>
      have hphase : (console.onDelivery frame).phase = .talking name := by
        simp only [onDelivery, h, print]
      rw [wishes, List.flatMap_cons, onInput, ih hphase]
      rfl
    | line text =>
      have hlines : (Input.line text :: rest).filterMap Input.line? =
          text :: rest.filterMap Input.line? := rfl
      rw [wishes, List.flatMap_cons, onInput, hlines, spoken]
      by_cases hquit : isQuit text = true
      · have hleave : console.onLine text = console.leave := by
          simp only [onLine, h, hquit, if_true]
        rw [hleave, wishes_done rest rfl, List.takeWhile_cons_of_neg (by simp [hquit])]
        rfl
      · have hsay : console.onLine text = (console, .say text) := by
          simp only [onLine, h, if_neg hquit]
        rw [hsay, ih h, List.takeWhile_cons_of_pos (by simp [hquit])]
        rfl

/-- **A chatting client sends its greeting, its lines and a close frame**, whatever it receives. -/
theorem chat_eq (showClock : Bool) (name : Name) (inputs : List Input) :
    chat showClock name inputs = chatFrames name (inputs.filterMap Input.line?) := by
  have hstart : start true showClock (some name.text) =
      (⟨true, showClock, .joining name, ["type :q to quit"]⟩, .join name) := by
    rw [start, Option.map_some, Name.ofString_text]
  rw [chat, hstart]
  dsimp only
  rw [List.flatMap_cons, wishes_talking inputs rfl, chatFrames, List.map_cons, List.map_map]
  rfl

end

/-- The texts that a chatting client sends. -/
def chatTexts (name : Name) (lines : List String) : List String :=
  (greeting name :: (spoken lines).map (ChatFrame.mk name.text)).map ChatFrame.json

theorem chatFrames_eq (name : Name) (lines : List String) :
    chatFrames name lines = (chatTexts name lines).map Frame.text ++ [.close] := by
  rw [chatFrames, chatTexts, List.map_map]
  rfl

end Client.Console

/-! ### Over the network -/

namespace Network

open Client.Console (Wish)

variable {network after : Network} {time : Timestamp} {id : PeerId} {peer : Peer} {name : Name}

/-- Sends frames for a client, one after the other. -/
def transmitAll (time : Timestamp) (network : Network) (peer : Peer) (frames : List Frame) :
    Network :=
  frames.foldl (fun network frame => network.transmit time peer (.ofFrame frame)) network

/-- A client that has come in greets the hub over its socket. -/
theorem join_chat {address : Client.Address}
    (h : network.join time address true name = (.ok id, after)) :
    ∃ socket opened, after = transmitAll time opened ⟨socket, some name, true, []⟩
      ((Wish.join name).frames name) := by
  unfold join at h
  split at h
  · cases h
  · split at h
    · split at h
      · cases h
      · cases h
        exact ⟨_, _, rfl⟩
    · cases h

theorem say_chat (hpeer : network.peer? id = some peer) (hopen : peer.isOpen = true)
    (hspeaker : peer.speaker = some name) (line : String) :
    network.say time id line =
      (true, transmitAll time network peer ((Wish.say line).frames name)) := by
  simp only [say, hpeer, hopen, hspeaker]
  rfl

theorem leave_chat (hpeer : network.peer? id = some peer) (hopen : peer.isOpen = true) :
    network.leave time id (.frame .close) =
      (true, (transmitAll time network peer (Wish.leave.frames name)).put id
        { peer with isOpen := false }) := by
  simp only [leave, hpeer, hopen, if_true]
  rfl

end Network

/-! ### On the server's side -/

/-- A line of up to half a million characters is never too large for a frame. -/
theorem ChatFrame.fault?_json (name : Name) {line : String} (h : line.length ≤ 500000) :
    (Frame.text (ChatFrame.mk name.text line).json).fault? = none := by
  have hsize := utf8ByteSize_le (ChatFrame.mk name.text line).json
  have hsender := Json.Quoted.length_encode_le name.text
  have htext := Json.Quoted.length_encode_le line
  have hname : name.text.length ≤ 100 := name.length_le
  have hkeys : (Json.Quoted.encode "from").length = 6 ∧
      (Json.Quoted.encode "message").length = 9 := by
    decide
  have hlength : (ChatFrame.mk name.text line).json.length ≤ 3000700 := by
    rw [ChatFrame.json, Json.length_object]
    dsimp only
    omega
  have hsmall : (ChatFrame.mk name.text line).json.utf8ByteSize ≤ Frame.limit := by
    rw [Frame.limit]
    omega
  simp only [Frame.fault?, Frame.fault?.tooLong, hsmall, if_true]

namespace Incoming

open Client.Console (Input chat greeting spoken chatTexts)

/-- A text that carries a chat frame of this name is a message if its text is short enough for a
body. -/
theorem message?_json (name : Name) (line : String) :
    (message? (ChatFrame.mk name.text line).json).map ChatFrame.ofMessage =
      if line.length ≤ Body.limit then some ⟨name.text, line⟩ else none := by
  have hread : message? (ChatFrame.mk name.text line).json =
      (ChatFrame.mk name.text line).toMessage.toOption := by
    rw [message?, ChatFrame.read_json]
  rw [hread, ChatFrame.toMessage, Message.ofTexts, Name.ofString_text, Body.ofString]
  by_cases hfits : line.length ≤ Body.limit
  · rw [dif_pos hfits, if_pos hfits]
    rfl
  · rw [dif_neg hfits, if_neg hfits]
    rfl

theorem message?_of_fits (name : Name) (body : Body) :
    message? (ChatFrame.mk name.text body.text).json = some ⟨name, body⟩ := by
  obtain ⟨message, hmessage, hframe⟩ :=
    Option.map_eq_some_iff.1 ((message?_json name body.text).trans (if_pos body.length_le))
  obtain ⟨sender, said⟩ := message
  obtain ⟨hsender, hbody⟩ := ChatFrame.mk.inj hframe
  obtain rfl : sender = name := Name.ext_text hsender
  obtain rfl : said = body := Body.ext_text hbody
  exact hmessage

/-- The messages that some frames of one name carry: all but those whose text is too long. -/
theorem messages_json (name : Name) (lines : List String) :
    ((lines.map fun line => (ChatFrame.mk name.text line).json).filterMap message?).map
        ChatFrame.ofMessage =
      (lines.filter fun line => line.length ≤ Body.limit).map (ChatFrame.mk name.text) := by
  induction lines with
  | nil => rfl
  | cons line rest ih =>
    have hline := message?_json name line
    rw [List.map_cons]
    by_cases hfits : line.length ≤ Body.limit
    · rw [if_pos hfits] at hline
      obtain ⟨message, hmessage, hframe⟩ := Option.map_eq_some_iff.1 hline
      rw [List.filterMap_cons_some hmessage, List.map_cons, hframe, ih,
        List.filter_cons_of_pos (by simp [hfits]), List.map_cons]
    · rw [if_neg hfits, Option.map_eq_none_iff] at hline
      rw [List.filterMap_cons_none hline, ih, List.filter_cons_of_neg (by simp [hfits])]

/-- **What the server makes of a client's chat**: the client's greeting, and its lines without those
that are too long. -/
theorem messages_chatTexts (name : Name) (lines : List String) :
    ∃ said, (chatTexts name lines).filterMap message? = ⟨name, .empty⟩ :: said ∧
      said.map ChatFrame.ofMessage =
        ((spoken lines).filter fun line => line.length ≤ Body.limit).map
          (ChatFrame.mk name.text) := by
  have hgreeting : message? (greeting name).json = some ⟨name, .empty⟩ :=
    message?_of_fits name .empty
  refine ⟨_, ?_, messages_json name (spoken lines)⟩
  rw [chatTexts, List.map_cons, List.filterMap_cons_some hgreeting, List.map_map]
  rfl

theorem ofFrame_of_fault? {frame : Frame} (h : frame.fault? = none) :
    ofFrame frame = .frame frame := by
  rw [ofFrame, h]

/-- A client whose lines are within the limit has its frames come in as it sends them. -/
theorem ofFrame_chat (showClock : Bool) (name : Name) (inputs : List Input)
    (hlimit : ∀ line ∈ spoken (inputs.filterMap Input.line?),
      (Frame.text (ChatFrame.mk name.text line).json).fault? = none) :
    (chat showClock name inputs).map ofFrame =
      (chatTexts name (inputs.filterMap Input.line?)).map (.frame <| .text ·) ++
        [.frame .close] := by
  have htexts : ∀ text ∈ chatTexts name (inputs.filterMap Input.line?),
      (ofFrame ∘ Frame.text) text = .frame (.text text) := by
    intro text htext
    rw [Function.comp_apply]
    refine ofFrame_of_fault? ?_
    rw [chatTexts, List.map_cons, List.mem_cons, List.map_map] at htext
    rcases htext with rfl | htext
    · exact ChatFrame.fault?_json name (Nat.zero_le 500000)
    · obtain ⟨line, hline, rfl⟩ := List.mem_map.1 htext
      exact hlimit line hline
  have hclose : ofFrame .close = .frame .close := ofFrame_of_fault? (by decide)
  rw [Client.Console.chat_eq, Client.Console.chatFrames_eq, List.map_append, List.map_map,
    List.map_congr_left htexts, List.map_singleton, hclose]

end Incoming

end BroadcastChat
