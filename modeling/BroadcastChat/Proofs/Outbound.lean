/-
# What goes out comes in

The server sends deliveries as text frames and then a close frame; the client
reads its deliveries out of the frames that come in. Every delivery comes in as
it was handed out, none is lost and none comes twice, whatever its texts hold
and whatever else the client has to pass over in between.

Key definitions: `Frame.isIdle`, `Server.written`, `Client.answers`.
Key theorems: `Server.fault?_frameText`, `Server.arrived_flush`,
`Client.answers_of_filter`, `outbound_round_trip`.
-/
import BroadcastChat.Network
import BroadcastChat.Proofs.Readback

namespace BroadcastChat

/-! ### Sizes -/

theorem utf8ByteSize_le (text : String) : text.utf8ByteSize ≤ 4 * text.length := by
  induction text using String.push_induction with
  | empty => simp
  | push text c ih =>
    have hc := c.utf8Size_le_four
    rw [String.utf8ByteSize_push, String.length_push]
    omega

namespace Json

theorem Quoted.length_escape_le (c : Char) : (Quoted.escape c).length ≤ 6 := by
  have hwritten := Quoted.written_escape c
  generalize Quoted.escape c = written at hwritten
  cases hwritten <;> simp

theorem Quoted.length_encode_le (text : String) :
    (Quoted.encode text).length ≤ 6 * text.length + 2 := by
  have hall : (text.toList.flatMap Quoted.escape).length ≤ 6 * text.toList.length := by
    induction text.toList with
    | nil => exact Nat.le_refl _
    | cons c cs ih =>
      have hc := Quoted.length_escape_le c
      rw [List.flatMap_cons, List.length_append, List.length_cons]
      omega
  rw [String.length_toList] at hall
  rw [Quoted.encode, String.length_ofList, List.length_append, List.length_cons]
  simp only [List.length_singleton]
  omega

theorem length_object (k l a b : String) :
    (object [(k, a), (l, b)]).length =
      (Quoted.encode k).length + a.length + (Quoted.encode l).length + b.length + 5 := by
  have hinner : ",".intercalate [member k a, member l b] = member k a ++ "," ++ member l b := by
    rw [String.ext_iff, String.toList_intercalate]
    simp [List.intercalate_cons_cons]
  rw [object, List.map_cons, List.map_cons, List.map_nil, hinner]
  simp only [member, String.length_append]
  have hbrackets : "\x7b".length = 1 ∧ "\x7d".length = 1 ∧ ":".length = 1 ∧ ",".length = 1 := by
    decide
  omega

end Json

theorem Timestamp.length_text_le (stamp : Timestamp) : stamp.text.length ≤ 20 := by
  have hbounds := stamp.millis_bounds
  rw [Word.signedMin, Word.signedMax] at hbounds
  rw [← String.length_toList, Timestamp.text]
  generalize stamp.millis.toInt = millis at hbounds ⊢
  cases millis with
  | ofNat n =>
    rw [Int.ofNat_eq_natCast] at hbounds
    rw [Json.Numeral.toList_toString_ofNat, Nat.length_toDigits_le_iff (by decide) (by decide)]
    omega
  | negSucc n =>
    have hdigits : (Nat.toDigits 10 (n + 1)).length ≤ 19 := by
      rw [Nat.length_toDigits_le_iff (by decide) (by decide)]
      omega
    rw [Json.Numeral.toList_toString_negSucc, List.length_cons]
    omega

namespace Server

/-- A delivery's frame is long at most as the limits of its texts make it. -/
theorem length_frameText_le (delivery : Delivery) :
    (frameText delivery).length ≤ 6 * (Name.limit + Body.limit) + 100 := by
  have hsender := Json.Quoted.length_encode_le delivery.message.sender.text
  have hbody := Json.Quoted.length_encode_le delivery.message.body.text
  have hname := delivery.message.sender.length_le
  have hlimit := delivery.message.body.length_le
  have hstamp := delivery.receivedAt.length_text_le
  have hkeys : (Json.Quoted.encode "timestamp").length = 11 ∧
      (Json.Quoted.encode "message").length = 9 ∧ (Json.Quoted.encode "from").length = 6 := by
    decide
  rw [frameText, DeliveryFrame.json, ChatFrame.json, Json.length_object, Json.length_object]
  simp only [DeliveryFrame.ofDelivery, ChatFrame.ofMessage]
  omega

/-- **No delivery is too large for a frame.** -/
theorem fault?_frameText (delivery : Delivery) :
    (Frame.text (frameText delivery)).fault? = none := by
  have hsize := utf8ByteSize_le (frameText delivery)
  have hlength := length_frameText_le delivery
  have hlimit : 4 * (6 * (Name.limit + Body.limit) + 100) ≤ Frame.limit := by decide
  exact if_pos (by omega)

/-! ### Writing -/

/-- The frames that deliveries go out as when no more will come. -/
def written (deliveries : List Delivery) : List Frame :=
  deliveries.map (fun delivery => .text (frameText delivery)) ++ [.close]

/-- A written frame breaks no connection. -/
theorem ofFrame_of_mem_written {deliveries : List Delivery} {frame : Frame}
    (h : frame ∈ written deliveries) : Incoming.ofFrame frame = .frame frame := by
  have hfault : frame.fault? = none := by
    rcases List.mem_append.1 h with h | h
    · obtain ⟨delivery, -, rfl⟩ := List.mem_map.1 h
      exact fault?_frameText delivery
    · rw [List.mem_singleton.1 h]
      rfl
  rw [Incoming.ofFrame, hfault]

section

variable {hub : Hub} {socket : Socket} {endpoint : EndpointId} {earlier : List Delivery}

/-- A flush sends what is read, and closes the socket if nothing more will come. -/
theorem flush_eq (hfinish : socket.finish = none)
    (hendpoint : endpoint? hub socket = some endpoint) :
    flush hub socket =
      ({ socket with
          sent := socket.sent ++ (hub.readAll endpoint).1.map frameText
          finish := if (hub.readAll endpoint).2.1 = .pending then none else some .closed },
        (hub.readAll endpoint).2.2) := by
  rw [flush, hfinish, hendpoint]

theorem sent_flush (hfinish : socket.finish = none)
    (hendpoint : endpoint? hub socket = some endpoint)
    (hsent : socket.sent = earlier.map frameText) :
    (flush hub socket).1.sent = (earlier ++ (hub.readAll endpoint).1).map frameText := by
  rw [flush_eq hfinish hendpoint, List.map_append, ← hsent]

theorem finish_flush (hfinish : socket.finish = none)
    (hendpoint : endpoint? hub socket = some endpoint) :
    (flush hub socket).1.finish =
      if (hub.readAll endpoint).2.1 = .pending then none else some .closed := by
  rw [flush_eq hfinish hendpoint]

/-- **A stream that is over has gone out as its deliveries and a close frame.** -/
theorem arrived_flush (hfinish : socket.finish = none)
    (hendpoint : endpoint? hub socket = some endpoint) (hsent : socket.sent = earlier.map frameText)
    (hstanding : (hub.readAll endpoint).2.1 ≠ .pending) :
    Network.arrived (flush hub socket).1.sent (flush hub socket).1.finish =
      (written (earlier ++ (hub.readAll endpoint).1)).map .frame := by
  rw [finish_flush hfinish hendpoint, if_neg hstanding, sent_flush hfinish hendpoint hsent]
  simp [Network.arrived, written, Function.comp_def]

end

end Server

/-! ### Reading -/

/-- Frames that the client passes over: all but close frames and deliveries. -/
def Frame.isIdle : Frame → Bool
  | .text content => !(DeliveryFrame.reader.read content).toBool
  | .binary _ | .ping _ | .pong _ => true
  | .close => false

namespace Client

theorem received_of_isIdle {frame : Frame} (h : frame.isIdle = true) :
    received (.frame frame) = .nothing := by
  cases frame with
  | text text =>
    rw [received]
    cases hread : DeliveryFrame.reader.read text with
    | error fault => rfl
    | ok frame =>
      rw [Frame.isIdle, hread] at h
      cases h
  | close => cases h
  | _ => rfl

theorem received_frameText (delivery : Delivery) :
    received (.frame (.text (Server.frameText delivery))) = .delivery (.ofDelivery delivery) := by
  rw [received, Server.frameText, DeliveryFrame.read_json]

/-- What a client is told that asks so many times for a delivery; once there is none it does not
ask again. -/
def answers : Nat → List Incoming → List (Option (Except Error DeliveryFrame))
  | 0, _ => []
  | asks + 1, all =>
    match nextDelivery all with
    | none => [none]
    | some (result, rest) => some result :: answers asks rest

section

variable {asks : Nat} {all : List Incoming} {incoming : Incoming} {frame : DeliveryFrame}

/-- Passing over something takes no question. -/
theorem answers_of_nothing (h : received incoming = .nothing) :
    answers asks (incoming :: all) = answers asks all := by
  cases asks with
  | zero => rfl
  | succ asks => rw [answers, nextDelivery, h, answers]

theorem answers_of_delivery (h : received incoming = .delivery frame) :
    answers (asks + 1) (incoming :: all) = some (.ok frame) :: answers asks all := by
  rw [answers, nextDelivery, h]

theorem deliveries_of_answers (frames : List DeliveryFrame)
    (h : answers (frames.length + 1) all = frames.map (fun frame => some (.ok frame)) ++ [none]) :
    deliveries all = frames.map .ok := by
  induction frames generalizing all with
  | nil =>
    rw [deliveries.eq_def]
    split
    all_goals
      rename_i hnext
      rw [List.length_nil, answers, hnext] at h
    · rfl
    · cases h
    · cases h
  | cons frame frames ih =>
    rw [deliveries.eq_def]
    split
    all_goals
      rename_i hnext
      rw [List.length_cons, answers, hnext] at h
    · cases h
    · cases h
    · rw [List.map_cons, List.cons_append] at h
      obtain ⟨hframe, hrest⟩ := List.cons.inj h
      cases hframe
      rw [ih hrest, List.map_cons]

end

/-- **Among idle frames the client is told every delivery once, in order, and then that there is
none any more.** -/
theorem answers_of_filter {deliveries : List Delivery} {frames : List Frame}
    (h : frames.filter (fun frame => !frame.isIdle) = Server.written deliveries) :
    answers (deliveries.length + 1) (frames.map .frame) =
      deliveries.map (fun delivery => some (.ok (.ofDelivery delivery))) ++ [none] := by
  induction frames generalizing deliveries with
  | nil =>
    have hempty : deliveries.map (fun delivery => Frame.text (Server.frameText delivery)) ++
        [.close] ≠ [] := List.append_ne_nil_of_right_ne_nil _ (List.cons_ne_nil _ _)
    exact absurd h.symm hempty
  | cons frame frames ih =>
    rw [List.map_cons]
    by_cases hidle : frame.isIdle = true
    · rw [List.filter_cons_of_neg (by simp [hidle])] at h
      rw [answers_of_nothing (received_of_isIdle hidle), ih h]
    · rw [List.filter_cons_of_pos (by simp [hidle])] at h
      cases deliveries with
      | nil =>
        obtain ⟨rfl, -⟩ := List.cons.inj h
        rfl
      | cons delivery deliveries =>
        obtain ⟨rfl, hrest⟩ := List.cons.inj h
        rw [List.length_cons, answers_of_delivery (received_frameText delivery), ih hrest]
        rfl

end Client

theorem Server.isIdle_frameText (delivery : Delivery) :
    (Frame.text (frameText delivery)).isIdle = false := by
  rw [Frame.isIdle, frameText, DeliveryFrame.read_json]
  rfl

/-- No written frame is idle. -/
theorem Server.filter_written (deliveries : List Delivery) :
    (written deliveries).filter (fun frame => !frame.isIdle) = written deliveries := by
  refine List.filter_eq_self.2 fun frame hframe => ?_
  rcases List.mem_append.1 hframe with h | h
  · obtain ⟨delivery, -, rfl⟩ := List.mem_map.1 h
    rw [isIdle_frameText]
    rfl
  · rw [List.mem_singleton.1 h]
    rfl

/-- **What goes out comes in.** `deliveries` are all that a stream hands out, and `frames` what the
server sends of them with any idle frames strewn in. As long as the stream is pending a socket sends
a text frame for each delivery read so far, and when it is over a close frame behind them; none of
these breaks the connection. A client that reads the frames, with the idle ones or without, is told
the deliveries, each once and in order, with the time stamps, senders and bodies that they were
handed out with, and then that there are no more. -/
theorem outbound_round_trip (deliveries : List Delivery) (frames : List Frame)
    (hframes : frames.filter (fun frame => !frame.isIdle) = Server.written deliveries) :
    (∀ (hub : Hub) (socket : Socket) (endpoint : EndpointId) (earlier : List Delivery),
      socket.finish = none → Server.endpoint? hub socket = some endpoint →
      socket.sent = earlier.map Server.frameText →
      earlier ++ (hub.readAll endpoint).1 = deliveries →
      let after := (Server.flush hub socket).1
      if (hub.readAll endpoint).2.1 = .pending then
        after.finish = none ∧ after.sent = deliveries.map Server.frameText
      else Network.arrived after.sent after.finish = (Server.written deliveries).map .frame) ∧
    (∀ frame ∈ Server.written deliveries, Incoming.ofFrame frame = .frame frame) ∧
    ∀ all ∈ [Server.written deliveries, frames],
      Client.answers (deliveries.length + 1) (all.map .frame) =
        deliveries.map (fun delivery => some (.ok (.ofDelivery delivery))) ++ [none] ∧
      Client.deliveries (all.map .frame) =
        deliveries.map fun delivery => .ok (.ofDelivery delivery) := by
  refine ⟨?_, fun frame hframe => Server.ofFrame_of_mem_written hframe, fun all hall => ?_⟩
  · rintro hub socket endpoint earlier hfinish hendpoint hsent rfl
    dsimp only
    split
    · rename_i hpending
      rw [Server.finish_flush hfinish hendpoint, if_pos hpending]
      exact ⟨rfl, Server.sent_flush hfinish hendpoint hsent⟩
    · rename_i hover
      exact Server.arrived_flush hfinish hendpoint hsent hover
  · have hwritten : all.filter (fun frame => !frame.isIdle) = Server.written deliveries := by
      rcases List.mem_pair.1 hall with rfl | rfl
      · exact Server.filter_written deliveries
      · exact hframes
    have hanswers := Client.answers_of_filter hwritten
    have hdeliveries : Client.deliveries (all.map .frame) =
        (deliveries.map DeliveryFrame.ofDelivery).map .ok :=
      Client.deliveries_of_answers _ (by rw [List.length_map, List.map_map]; exact hanswers)
    exact ⟨hanswers, hdeliveries.trans List.map_map⟩

/-- The deliveries of a sender whose name needs every kind of escape, stamped with the least and the
greatest time stamp, come in among frames that hold none. -/
theorem outbound_round_trip_escaping :
    ∃ (first second : Delivery) (frames : List Frame),
      first.sender.text = "\"\\\n\x01😀" ∧ first.receivedAt.millis.toInt = Word.signedMin ∧
      second.receivedAt.millis.toInt = Word.signedMax ∧
      frames = [.ping [], .text "\x7b\x7d", .text (Server.frameText first), .binary [1],
        .text (Server.frameText second), .pong [], .close] ∧
      Client.answers 3 (frames.map .frame) =
        [some (.ok (.ofDelivery first)), some (.ok (.ofDelivery second)), none] := by
  let sender : Name := ⟨"\"\\\n\x01😀", by decide, by decide⟩
  let first : Delivery := ⟨⟨sender, ⟨"\t", by decide⟩⟩, ⟨Int64.minValue⟩⟩
  let second : Delivery := ⟨⟨sender, .empty⟩, ⟨Int64.maxValue⟩⟩
  have hidle : (Frame.text "\x7b\x7d").isIdle = true := by decide +kernel
  have hcontrol : (Frame.ping []).isIdle = true ∧ (Frame.binary [1]).isIdle = true ∧
      (Frame.pong []).isIdle = true ∧ Frame.close.isIdle = false := ⟨rfl, rfl, rfl, rfl⟩
  have hframes : List.filter (fun frame => !frame.isIdle) [.ping [], .text "\x7b\x7d",
      .text (Server.frameText first), .binary [1], .text (Server.frameText second), .pong [],
      .close] = Server.written [first, second] := by
    simp [hidle, hcontrol, Server.isIdle_frameText, Server.written]
  have htrip := outbound_round_trip [first, second] _ hframes
  exact ⟨first, second, _, rfl, by decide, by decide, rfl,
    (htrip.2.2 _ (List.mem_cons_of_mem _ List.mem_cons_self)).1⟩

end BroadcastChat
