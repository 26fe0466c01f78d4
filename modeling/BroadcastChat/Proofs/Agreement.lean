/-
# The domain's own form and the form on the wire

A message has two JSON forms: one of its own, whose reader checks the limits
while it reads, and a chat frame, which is checked after it was read. Both take
the same texts, as the same message. The reader that checks stops at the first
member that it cannot take (`Json.Reader.fails_record₂`), so with the sender in
front it also finds the same limit broken first; with the body in front, a
broken limit of the body comes before one of the sender.

Key definitions: `Json.Reader.Fails`, `Message.ofTextsBackwards`.
Key theorems: `Json.Reader.members_of_fails`, `Json.Reader.fails_record₂`,
`Delivery.read_json`, `Message.read_forwards`, `Message.read_iff_toMessage`,
`domain_and_wire_agree`.
-/
import BroadcastChat.Proofs.Exactness

namespace BroadcastChat

open Json Json.Reader

/-! ### The first fault decides -/

namespace Json.Reader

/-- Wherever these tokens stand first, the reader stops in them, at this fault. -/
def Fails {α : Type} (reader : Reader α) (ts : List Token) (fault : Fault) : Prop :=
  ∀ rest, reader.run (ts ++ rest) = .error fault

variable {α β σ : Type} {reader : Reader α} {ts : List Token} {a : α} {fault : Fault}

theorem fails_refine {check : α → Except LimitError β} {limit : LimitError}
    (h : Reads reader ts a) (hcheck : check a = .error limit) :
    Fails (reader.refine check) ts (.unfit (some limit)) := by
  intro rest
  have hrun : reader.run (ts ++ rest) = .ok (a, rest) := h rest
  simp only [Reader.refine, hrun, hcheck, bind, Except.bind]

theorem Fails.map (h : Fails reader ts fault) (f : α → β) : Fails (reader.map f) ts fault := by
  intro rest
  rw [run_map, h]
  rfl

/-- **The first member that is not taken decides**, whatever stands behind it. -/
theorem members_of_fails {slot : String → σ → Except Fault (Reader σ)} {state mid : σ}
    {front : List (String × List Token)} {m : String × List Token} {value : Reader σ}
    (hfront : Collected slot state front mid) (hslot : slot m.1 mid = .ok value)
    (hfails : Fails value m.2 fault) (back : List (String × List Token)) (rest : List Token) :
    object slot state ((objectTokens (front ++ m :: back)).tail ++ rest) = .error fault := by
  suffices h : ∃ first more, front ++ m :: back = first :: more ∧
      members slot state (.text (some first.1) :: .colon :: first.2 ++
        (moreMembers more ++ rest)) = .error fault by
    obtain ⟨first, more, hmembers, hfault⟩ := h
    rw [hmembers, objectTokens_cons, List.tail_cons]
    simpa [object] using hfault
  induction front generalizing state with
  | nil =>
    obtain rfl : mid = state := hfront
    refine ⟨m, back, rfl, ?_⟩
    rw [List.cons_append, List.cons_append, members.eq_def]
    have hcolon : expect .colon (.colon :: (m.2 ++ (moreMembers back ++ rest))) =
        .ok (m.2 ++ (moreMembers back ++ rest)) := expect_iff.2 rfl
    simp only [hslot]
    split
    · rename_i hfault
      rw [hcolon] at hfault
      cases hfault
    · rename_i hvalue
      cases hcolon.symm.trans hvalue
      split
      all_goals
        rename_i hread
        cases (hfails _).symm.trans hread
      rfl
  | cons first front ih =>
    obtain ⟨reader, after, hreader, hreads, hrest⟩ := hfront
    obtain ⟨next, more, hmembers, hfault⟩ := ih hrest
    refine ⟨first, front ++ m :: back, rfl, ?_⟩
    rw [members_member hreader hreads, hmembers]
    simpa [moreMembers] using hfault

/-- **A record fails in the first member that it cannot take.** -/
theorem fails_record₂ {f : Field α} {g : Field β} {mid : Option α × Option β}
    {front : List (String × List Token)} {m : String × List Token}
    {value : Reader (Option α × Option β)}
    (hfront : Collected (slot₂ f g) (none, none) front mid)
    (hslot : slot₂ f g m.1 mid = .ok value) (hfails : Fails value m.2 fault)
    (back : List (String × List Token)) :
    Fails (record₂ f g) (objectTokens (front ++ m :: back)) fault := by
  intro rest
  have hobject := members_of_fails hfront hslot hfails back rest
  have htokens : objectTokens (front ++ m :: back) =
      .openObject :: (objectTokens (front ++ m :: back)).tail := rfl
  rw [htokens, List.cons_append]
  change (object (slot₂ f g) (none, none) _ >>= _) = _
  rw [hobject]
  rfl

theorem Fails.read (h : Fails reader ts fault) {source : String}
    (hwriting : Writing source.toList ts) : reader.read source = .error fault := by
  have hrun := h []
  rw [List.append_nil] at hrun
  rw [Reader.read, hwriting.ofText_eq, readTokens, hrun]

end Json.Reader

/-! ### What is printed of a delivery -/

theorem Message.spells_json (message : Message) : Spells message.json.toList
    (objectTokens [("from", [.text (some message.sender.text)]),
      ("body", [.text (some message.body.text)])]) := by
  refine spells_object [("from", message.sender.json, [.text (some message.sender.text)]),
    ("body", message.body.json, [.text (some message.body.text)])] fun m hm => ?_
  rcases List.mem_pair.1 hm with rfl | rfl
  · exact spells_encode message.sender.text
  · exact spells_encode message.body.text

/-- **A delivery is read back from what is printed of it.** -/
theorem Delivery.read_json (delivery : Delivery) :
    Delivery.reader.read delivery.json = .ok delivery := by
  have hspells := spells_object [("message", delivery.message.json, _),
    ("received_at", delivery.receivedAt.text, _)] fun m hm => by
      rcases List.mem_pair.1 hm with rfl | rfl
      · exact delivery.message.spells_json
      · exact delivery.receivedAt.spells_text
  have hsaid : Delivery.Said delivery.message.sender.text delivery.message.body.text
      delivery.receivedAt _ := ⟨_, ⟨_, .refl _, rfl⟩, ⟨_, .refl _, rfl⟩⟩
  exact (Delivery.reads_reader hsaid).read hspells

/-! ### Two texts in either order -/

namespace Message

variable {sender body source : String} {name : Name} {content : Body} {limit : LimitError}

/-- The message of two texts; the body is checked before the sender. -/
def ofTextsBackwards (sender body : String) : Except LimitError Message := do
  let body ← Body.ofString body
  let sender ← Name.ofString sender
  return ⟨sender, body⟩

theorem ofTextsBackwards_ok_iff {message : Message} :
    ofTextsBackwards sender body = .ok message ↔ ofTexts sender body = .ok message := by
  unfold ofTextsBackwards ofTexts
  cases Name.ofString sender <;> cases Body.ofString body <;> simp [bind, Except.bind]

/-- What a member says that holds a text. -/
def member (key value : String) : String × List Token := (key, [.text (some value)])

/-- How a broken limit is told by a reader that checks. -/
def refused (limit : LimitError) : Fault := .unfit (some limit)

/-- The fields of a message. -/
def senderField : Json.Field Name := .required "from" Name.reader

def bodyField : Json.Field Body := .required "body" Body.reader

theorem slot_sender (found : Option Body) : slot₂ senderField bodyField "from" (none, found) =
    .ok (Name.reader.map fun name => (some name, found)) := rfl

theorem slot_body (found : Option Name) : slot₂ senderField bodyField "body" (found, none) =
    .ok (Body.reader.map fun body => (found, some body)) := rfl

variable {front back : List (String × List Token)}

theorem fails_of_sender {found : Option Body}
    (hfront : Collected (slot₂ senderField bodyField) (none, none) front (none, found))
    (h : Name.ofString sender = .error limit) :
    Fails reader (objectTokens (front ++ member "from" sender :: back)) (refused limit) := by
  have hname : Fails Name.reader [.text (some sender)] (refused limit) :=
    fails_refine (reads_text sender) h
  have hrecord := fails_record₂ (m := member "from" sender) hfront (slot_sender found)
    (hname.map _) back
  exact hrecord.map _

theorem fails_of_body {found : Option Name}
    (hfront : Collected (slot₂ senderField bodyField) (none, none) front (found, none))
    (h : Body.ofString body = .error limit) :
    Fails reader (objectTokens (front ++ member "body" body :: back)) (refused limit) := by
  have hbody : Fails Body.reader [.text (some body)] (refused limit) :=
    fails_refine (reads_text body) h
  have hrecord := fails_record₂ (m := member "body" body) hfront (slot_body found)
    (hbody.map _) back
  exact hrecord.map _

/-- **With the sender in front, a message is read as its texts are checked.** -/
theorem read_forwards
    (hwriting : Writing source.toList (objectTokens [member "from" sender, member "body" body])) :
    reader.read source = (ofTexts sender body).mapError refused := by
  rw [ofTexts]
  cases hname : Name.ofString sender with
  | error limit =>
    have hfront : Collected (slot₂ senderField bodyField) (none, none) [] (none, none) := rfl
    exact (fails_of_sender hfront hname).read hwriting
  | ok name =>
    obtain rfl := Name.text_of_ofString hname
    cases hbody : Body.ofString body with
    | error limit =>
      have hfront : Collected (slot₂ senderField bodyField) (none, none)
          [member "from" name.text] (some name, none) :=
        ⟨_, _, slot_sender none, name.reads_reader.map _, rfl⟩
      exact (fails_of_body hfront hbody).read hwriting
    | ok content =>
      obtain rfl := Body.text_of_ofString hbody
      exact (reads_reader ⟨_, .refl _, rfl⟩).read_tokens hwriting.ofText_eq

/-- **With the body in front, a message is read as its texts are checked, the body first.** -/
theorem read_backwards
    (hwriting : Writing source.toList (objectTokens [member "body" body, member "from" sender])) :
    reader.read source = (ofTextsBackwards sender body).mapError refused := by
  rw [ofTextsBackwards]
  cases hbody : Body.ofString body with
  | error limit =>
    have hfront : Collected (slot₂ senderField bodyField) (none, none) [] (none, none) := rfl
    exact (fails_of_body hfront hbody).read hwriting
  | ok content =>
    obtain rfl := Body.text_of_ofString hbody
    cases hname : Name.ofString sender with
    | error limit =>
      have hfront : Collected (slot₂ senderField bodyField) (none, none)
          [member "body" content.text] (none, some content) :=
        ⟨_, _, slot_body none, content.reads_reader.map _, rfl⟩
      exact (fails_of_sender hfront hname).read hwriting
    | ok name =>
      obtain rfl := Name.text_of_ofString hname
      exact (reads_reader ⟨_, .swap _ _ _, rfl⟩).read_tokens hwriting.ofText_eq

/-- **A message is read from an object of two texts exactly if a chat frame of them holds it**,
whichever stands first. -/
theorem read_iff_toMessage {ts : List Token} {message : Message} {frame : ChatFrame}
    (hsaid : Said frame.sender frame.text ts) (hwriting : Writing source.toList ts) :
    reader.read source = .ok message ↔ frame.toMessage = .ok message := by
  have hok : ∀ {result : Except LimitError Message},
      result.mapError refused = .ok message ↔ result = .ok message := by
    intro result
    cases result <;> simp [Except.mapError]
  obtain ⟨order, horder, rfl⟩ := hsaid
  rcases List.perm_pair.1 horder with rfl | rfl
  · rw [read_forwards hwriting, hok, ChatFrame.toMessage]
  · rw [read_backwards hwriting, hok, ofTextsBackwards_ok_iff, ChatFrame.toMessage]

end Message

/-- **The domain's own form and the form on the wire agree.** A delivery is read back from its own
form; from the form on the wire, its message and its time stamp are. An object of two texts is read
as the message that a chat frame of them holds, in either order; with the sender in front both are
refused for the same limit, and with the body in front a broken limit of the body comes first. An
accepted message goes back into the frame that it came from. -/
theorem domain_and_wire_agree :
    (∀ delivery : Delivery, Delivery.reader.read delivery.json = .ok delivery ∧
      ∃ frame, DeliveryFrame.reader.read (DeliveryFrame.ofDelivery delivery).json = .ok frame ∧
        frame.message.toMessage = .ok delivery.message ∧
        frame.timestamp = delivery.receivedAt) ∧
    (∀ (frame : ChatFrame) (source : String) (ts : List Token),
      Message.Said frame.sender frame.text ts → Writing source.toList ts →
      ∀ message, Message.reader.read source = .ok message ↔ frame.toMessage = .ok message) ∧
    (∀ (frame : ChatFrame) (source : String),
      Writing source.toList (objectTokens
        [Message.member "from" frame.sender, Message.member "body" frame.text]) →
      Message.reader.read source = frame.toMessage.mapError Message.refused) ∧
    (∀ (frame : ChatFrame) (source : String),
      Writing source.toList (objectTokens
        [Message.member "body" frame.text, Message.member "from" frame.sender]) →
      Message.reader.read source =
        (Message.ofTextsBackwards frame.sender frame.text).mapError Message.refused) ∧
    ∀ (frame : ChatFrame) (message : Message), frame.toMessage = .ok message →
      ChatFrame.ofMessage message = frame := by
  refine ⟨fun delivery => ⟨delivery.read_json, ?_⟩, ?_, ?_, ?_, ?_⟩
  · exact ⟨_, (DeliveryFrame.ofDelivery delivery).read_json,
      ChatFrame.toMessage_ofMessage delivery.message, rfl⟩
  · exact fun frame source ts hsaid hwriting message => Message.read_iff_toMessage hsaid hwriting
  · exact fun frame source hwriting => Message.read_forwards hwriting
  · exact fun frame source hwriting => Message.read_backwards hwriting
  · exact fun frame message h => ChatFrame.ofMessage_of_toMessage h

/-! ### Two broken limits -/

namespace Sample

/-- A text with one character more than a body may have. -/
def endless : String := String.ofList (List.replicate (Body.limit + 1) 'x')

/-- Both texts of a message break a limit. -/
def broken : ChatFrame := ⟨"", endless⟩

theorem ofString_endless : Body.ofString endless = .error (.bodyTooLong 10000 10001) := by
  have hlength : endless.length = Body.limit + 1 := by
    rw [endless, String.length_ofList, List.length_replicate]
  rw [Body.ofString, dif_neg (by omega), hlength]
  rfl

/-- An object of two texts, written without blanks. -/
def written (first second : String × String) : String :=
  Json.object [(first.1, Quoted.encode first.2), (second.1, Quoted.encode second.2)]

theorem writing_written (first second : String × String) : Writing (written first second).toList
    (objectTokens [Message.member first.1 first.2, Message.member second.1 second.2]) := by
  have hspells := spells_object [(first.1, Quoted.encode first.2, [.text (some first.2)]),
    (second.1, Quoted.encode second.2, [.text (some second.2)])] fun m hm => by
      rcases List.mem_pair.1 hm with rfl | rfl
      · exact spells_encode _
      · exact spells_encode _
  refine writing_iff.2 ⟨hspells.ofText_eq, ?_⟩
  rw [objectTokens_cons]
  simp [Message.member, moreMembers, Token.isWhole]

end Sample

/-- With the sender in front the missing name is found, as it is in the chat frame; with the body in
front the long body is. Two texts within the limits are read and come back. -/
theorem domain_and_wire_agree_broken :
    Message.reader.read (Sample.written ("from", "") ("body", Sample.endless)) =
        .error (.unfit (some .nameEmpty)) ∧
      Sample.broken.toMessage = .error .nameEmpty ∧
      Message.reader.read (Sample.written ("body", Sample.endless) ("from", "")) =
        .error (.unfit (some (.bodyTooLong 10000 10001))) ∧
      ∃ message, Message.reader.read (Sample.written ("body", "hi") ("from", "alice")) =
        .ok message ∧ ChatFrame.ofMessage message = ⟨"alice", "hi"⟩ := by
  obtain ⟨-, hread, hforwards, hbackwards, hback⟩ := domain_and_wire_agree
  have hbroken : Sample.broken.toMessage = .error .nameEmpty := rfl
  have hbody : Message.ofTextsBackwards "" Sample.endless =
      .error (.bodyTooLong 10000 10001) := by
    rw [Message.ofTextsBackwards, Sample.ofString_endless]
    rfl
  have htaken : (ChatFrame.mk "alice" "hi").toMessage =
      .ok ⟨⟨"alice", by decide, by decide⟩, ⟨"hi", by decide⟩⟩ := rfl
  refine ⟨?_, hbroken, ?_, _, ?_, hback _ _ htaken⟩
  · rw [hforwards Sample.broken _ (Sample.writing_written _ _), hbroken]
    rfl
  · rw [hbackwards Sample.broken _ (Sample.writing_written _ _)]
    exact congrArg (Except.mapError Message.refused) hbody
  · have hsaid : Message.Said "alice" "hi" (objectTokens
        [Message.member "body" "hi", Message.member "from" "alice"]) := ⟨_, .swap _ _ _, rfl⟩
    exact (hread ⟨"alice", "hi"⟩ _ _ hsaid (Sample.writing_written _ _) _).2 htaken

end BroadcastChat
