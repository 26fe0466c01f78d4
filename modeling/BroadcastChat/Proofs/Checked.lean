/-
# Readers that check

The domain's own readers check limits while they read. A reader that checks
takes nothing that the same reader without the checks would not take, and what
it gives is seen as exactly what that one gives (`Json.Reader.Shows`): so
whatever text a name, a body, a message or a delivery is read from, its texts
stand in there as they are. The other way round, texts within the limits are
taken, whatever way they are written.

Key definitions: `Json.Reader.Shows`, `Message.rawReader`, `Delivery.rawReader`,
`ChatFrame.Said`, `Message.Said`, `Delivery.Said`.
Key theorems: `Json.Reader.shows_record₂`, `ChatFrame.read_of_said`,
`Name.read_iff_of_said`, `Body.read_iff_of_said`, `Message.texts_of_read`,
`Message.read_iff_of_said`, `Delivery.texts_of_read`, `Delivery.read_iff_of_said`.
-/
import BroadcastChat.Message.Json
import BroadcastChat.Proofs.Wordings

namespace BroadcastChat

/-! ### Checking changes nothing -/

namespace Json.Reader

/-- Whatever the first reader takes, the second one takes, and as what it is seen as. -/
def Shows {α β : Type} (reader : Reader β) (raw : Reader α) (view : β → α) : Prop :=
  ∀ ts rest b, reader.run ts = .ok (b, rest) → raw.run ts = .ok (view b, rest)

variable {α β γ δ σ τ : Type} {reader : Reader β} {raw : Reader α} {view : β → α}
  {second : Reader δ} {rawSecond : Reader γ} {viewSecond : δ → γ}

theorem shows_refl (reader : Reader α) : Shows reader reader id := fun _ _ _ h => h

theorem shows_refine {check : α → Except LimitError β}
    (hview : ∀ a b, check a = .ok b → view b = a) : Shows (raw.refine check) raw view := by
  intro ts rest b h
  obtain ⟨⟨a, tail⟩, hrun, hcheck⟩ := ok_of_bind h
  dsimp only at hcheck
  split at hcheck
  · rename_i b' hok
    cases hcheck
    rw [hrun, hview a b hok]
  · cases hcheck

theorem run_map (f : α → γ) (reader : Reader α) (ts : List Token) :
    (reader.map f).run ts = (reader.run ts).map fun pair => (f pair.1, pair.2) := by
  change (reader.run ts >>= _) = _
  cases reader.run ts <;> rfl

theorem Shows.map (h : Shows reader raw view) {f : β → δ} {f' : α → γ} {view' : δ → γ}
    (hview : ∀ b, view' (f b) = f' (view b)) : Shows (reader.map f) (raw.map f') view' := by
  intro ts rest d hrun
  rw [run_map] at hrun ⊢
  cases hfirst : reader.run ts with
  | error fault =>
    rw [hfirst] at hrun
    cases hrun
  | ok pair =>
    obtain ⟨b, tail⟩ := pair
    rw [hfirst] at hrun
    cases hrun
    rw [h ts _ b hfirst]
    exact congrArg (fun c => Except.ok (c, tail)) (hview b).symm

theorem Shows.of_map (h : Shows reader raw view) {f : β → δ} {view' : δ → α}
    (hview : ∀ b, view' (f b) = view b) : Shows (reader.map f) raw view' := by
  intro ts rest d hrun
  rw [run_map] at hrun
  cases hfirst : reader.run ts with
  | error fault =>
    rw [hfirst] at hrun
    cases hrun
  | ok pair =>
    obtain ⟨b, tail⟩ := pair
    rw [hfirst] at hrun
    cases hrun
    rw [h ts _ b hfirst]
    exact congrArg (fun a => Except.ok (a, tail)) (hview b).symm

theorem shows_members {slot : String → σ → Except Fault (Reader σ)}
    {rawSlot : String → τ → Except Fault (Reader τ)} {see : σ → τ}
    (hslot : ∀ key state reader, slot key state = .ok reader →
      ∃ raw, rawSlot key (see state) = .ok raw ∧ Shows reader raw see)
    {state out : σ} {ts rest : List Token} (h : members slot state ts = .ok (out, rest)) :
    members rawSlot (see state) ts = .ok (see out, rest) := by
  fun_induction members slot state ts with
  | case1 => cases h
  | case2 => cases h
  | case3 => cases h
  | case4 state key ts reader hreader value hcolon after tail hrun =>
    cases h
    obtain ⟨raw, hraw, hshows⟩ := hslot key state reader hreader
    rw [members.eq_def]
    simp only [hraw]
    split
    · rename_i hfault
      rw [hcolon] at hfault
      cases hfault
    · rename_i hvalue
      cases hcolon.symm.trans hvalue
      split
      all_goals
        rename_i hread
        cases (hshows _ _ _ hrun).symm.trans hread
      · rfl
      · rename_i hclose hcomma
        exact absurd rfl (hclose _)
  | case5 state key ts reader hreader value hcolon after tail hrun _ _ ih =>
    obtain ⟨raw, hraw, hshows⟩ := hslot key state reader hreader
    rw [members.eq_def]
    simp only [hraw]
    split
    · rename_i hfault
      rw [hcolon] at hfault
      cases hfault
    · rename_i hvalue
      cases hcolon.symm.trans hvalue
      split
      all_goals
        rename_i hread
        cases (hshows _ _ _ hrun).symm.trans hread
      · exact ih h
      · rename_i hclose hcomma
        exact absurd rfl (hcomma _)
  | case6 => cases h
  | case7 => cases h
  | case8 => cases h

/-! ### Records that check -/

section

variable {k l : String}

theorem settle_required {field : Field α} (hfield : field.fallback = none) {value : Option α}
    {a : α} (h : field.settle value = .ok a) : value = some a := by
  unfold Field.settle at h
  rw [hfield] at h
  cases value with
  | none => cases h
  | some a' =>
    cases h
    rfl

theorem shows_item (h : Shows reader raw view) {first : Bool} {ts rest : List Token}
    {b : Option β} (hitem : (Field.required k reader).item first ts = .ok (b, rest)) :
    (Field.required k raw).item first ts = .ok (b.map view, rest) := by
  unfold Field.item at hitem ⊢
  cases hnext : nextItem first ts with
  | error fault =>
    rw [hnext] at hitem
    cases hitem
  | ok next =>
    rw [hnext] at hitem
    cases next with
    | none =>
      cases hitem
      rfl
    | some tail =>
      dsimp only [Field.required] at hitem ⊢
      cases hrun : reader.run tail with
      | error fault =>
        rw [hrun] at hitem
        cases hitem
      | ok pair =>
        rw [hrun] at hitem
        cases hitem
        rw [h _ _ _ hrun]
        rfl

theorem shows_array₂ (hf : Shows reader raw view) (hg : Shows second rawSecond viewSecond)
    {ts rest : List Token} {b : β × δ}
    (h : array₂ (.required k reader) (.required l second) ts = .ok (b, rest)) :
    array₂ (.required k raw) (.required l rawSecond) ts =
      .ok (b.map view viewSecond, rest) := by
  obtain ⟨⟨first, behind⟩, hfirst, h⟩ := ok_of_bind h
  obtain ⟨value, hvalue, h⟩ := ok_of_bind h
  obtain ⟨⟨next, last⟩, hnext, h⟩ := ok_of_bind h
  obtain ⟨other, hother, h⟩ := ok_of_bind h
  obtain ⟨tail, hend, h⟩ := ok_of_bind h
  cases h
  obtain rfl := settle_required rfl hvalue
  obtain rfl := settle_required rfl hother
  have hraw := shows_item hf hfirst
  have hrawNext := shows_item hg hnext
  rw [array₂, hraw]
  change ((Field.required l rawSecond).item false behind >>= _) = _
  rw [hrawNext]
  change (expect .closeArray last >>= _) = _
  rw [hend]
  rfl

theorem shows_slot₂ (hf : Shows reader raw view) (hg : Shows second rawSecond viewSecond)
    (key : String) (state : Option β × Option δ) (value : Reader (Option β × Option δ))
    (h : slot₂ (.required k reader) (.required l second) key state = .ok value) :
    ∃ other, slot₂ (.required k raw) (.required l rawSecond) key
        (state.map (Option.map view) (Option.map viewSecond)) = .ok other ∧
      Shows value other (Prod.map (Option.map view) (Option.map viewSecond)) := by
  obtain ⟨b, d⟩ := state
  by_cases hfirst : key = k
  · rw [slot₂, if_pos (show key = (Field.required k reader).key from hfirst)] at h
    rw [slot₂, if_pos (show key = (Field.required k raw).key from hfirst)]
    cases b with
    | some b => cases h
    | none =>
      cases h
      exact ⟨_, rfl, hf.map fun b => rfl⟩
  rw [slot₂, if_neg (show key ≠ (Field.required k reader).key from hfirst)] at h
  rw [slot₂, if_neg (show key ≠ (Field.required k raw).key from hfirst)]
  by_cases hsecond : key = l
  · rw [if_pos (show key = (Field.required l second).key from hsecond)] at h
    rw [if_pos (show key = (Field.required l rawSecond).key from hsecond)]
    cases d with
    | some d => cases h
    | none =>
      cases h
      exact ⟨_, rfl, hg.map fun d => rfl⟩
  · -- another member is passed over by both
    rw [if_neg (show key ≠ (Field.required l second).key from hsecond)] at h
    rw [if_neg (show key ≠ (Field.required l rawSecond).key from hsecond)]
    cases h
    exact ⟨_, rfl, (shows_refl anything).map fun _ => rfl⟩

theorem shows_object₂ (hf : Shows reader raw view) (hg : Shows second rawSecond viewSecond)
    {ts rest : List Token} {b : β × δ}
    (h : object₂ (.required k reader) (.required l second) ts = .ok (b, rest)) :
    object₂ (.required k raw) (.required l rawSecond) ts =
      .ok (b.map view viewSecond, rest) := by
  obtain ⟨⟨state, tail⟩, hobject, h⟩ := ok_of_bind h
  obtain ⟨value, hvalue, h⟩ := ok_of_bind h
  obtain ⟨other, hother, h⟩ := ok_of_bind h
  cases h
  have hraw : object (slot₂ (.required k raw) (.required l rawSecond)) (none, none) ts =
      .ok (state.map (Option.map view) (Option.map viewSecond), rest) := by
    unfold object at hobject ⊢
    split at hobject
    · cases hobject
      rfl
    · exact shows_members (shows_slot₂ hf hg) hobject
  rw [object₂, hraw]
  obtain ⟨b, d⟩ := state
  obtain rfl := settle_required rfl hvalue
  obtain rfl := settle_required rfl hother
  rfl

/-- **A record of two fields that check shows the record of the fields that do not.** -/
theorem shows_record₂ (hf : Shows reader raw view) (hg : Shows second rawSecond viewSecond) :
    Shows (record₂ (.required k reader) (.required l second))
      (record₂ (.required k raw) (.required l rawSecond)) (Prod.map view viewSecond) := by
  intro ts rest b h
  simp only [record₂] at h ⊢
  split at h
  · exact shows_array₂ hf hg h
  · exact shows_object₂ hf hg h
  · cases h

end

theorem Reads.refine {ts : List Token} {a : α} {b : β} {check : α → Except LimitError β}
    (h : Reads raw ts a) (hcheck : check a = .ok b) : Reads (raw.refine check) ts b := by
  intro rest
  have hraw : raw.run (ts ++ rest) = .ok (a, rest) := h rest
  simp only [Reader.refine, hraw, hcheck, bind, Except.bind]

theorem Shows.read (h : Shows reader raw view) {source : String} {b : β}
    (hread : reader.read source = .ok b) : raw.read source = .ok (view b) := by
  unfold Reader.read readTokens at hread ⊢
  cases hrun : reader.run (Token.ofText source) with
  | error fault =>
    rw [hrun] at hread
    cases hread
  | ok pair =>
    obtain ⟨b', rest⟩ := pair
    rw [hrun] at hread
    rw [h _ _ _ hrun]
    cases rest with
    | nil =>
      cases hread
      rfl
    | cons t rest => cases hread

end Json.Reader

open Json Json.Reader

variable {blanks : Nat} {source : String} {ts : List Token}

/-! ### Chat frames -/

/-- Tokens of a chat frame's object. -/
def ChatFrame.Said (frame : ChatFrame) (ts : List Token) : Prop :=
  SaysObject [("from", [.text (some frame.sender)]), ("message", [.text (some frame.text)])] ts

/-- **A chat frame is read from every text that writes it.** -/
theorem ChatFrame.read_of_said {frame : ChatFrame} (h : frame.Said ts)
    (hwording : Wording blanks source.toList ts) : reader.read source = .ok frame := by
  have hobject := reads_object₂ (f := .required "from" .text) (g := ⟨"message", .text, some ""⟩)
    (by decide) (reads_text frame.sender) (reads_text frame.text) h
  have hreads : Reads reader ts frame := hobject.map _
  exact hreads.read_wording hwording

/-! ### Names and bodies -/

theorem Name.shows_reader : Shows Name.reader Reader.text Name.text :=
  shows_refine fun _ _ h => text_of_ofString h

theorem Name.reads_reader (name : Name) : Reads Name.reader [.text (some name.text)] name :=
  (reads_text name.text).refine name.ofString_text

theorem Body.shows_reader : Shows Body.reader Reader.text Body.text :=
  shows_refine fun _ _ h => text_of_ofString h

theorem Body.reads_reader (body : Body) : Reads Body.reader [.text (some body.text)] body :=
  (reads_text body.text).refine body.ofString_text

/-- **A text is read as the name that it is**, so one that is none is refused. -/
theorem Name.read_iff_of_said {value : String} {name : Name}
    (hwording : Wording blanks source.toList [.text (some value)]) :
    Name.reader.read source = .ok name ↔ name.text = value := by
  constructor
  · intro h
    have hraw := Name.shows_reader.read h
    rw [(reads_text value).read_wording hwording] at hraw
    exact (Except.ok.inj hraw).symm
  · rintro rfl
    exact name.reads_reader.read_wording hwording

theorem Body.read_iff_of_said {value : String} {body : Body}
    (hwording : Wording blanks source.toList [.text (some value)]) :
    Body.reader.read source = .ok body ↔ body.text = value := by
  constructor
  · intro h
    have hraw := Body.shows_reader.read h
    rw [(reads_text value).read_wording hwording] at hraw
    exact (Except.ok.inj hraw).symm
  · rintro rfl
    exact body.reads_reader.read_wording hwording

/-! ### Messages and deliveries -/

namespace Message

/-- Reads the texts of a message without checking them. -/
def rawReader : Reader (String × String) :=
  record₂ (.required "from" .text) (.required "body" .text)

/-- The texts of a message. -/
def texts (message : Message) : String × String := (message.sender.text, message.body.text)

/-- Tokens of a message's object. -/
def Said (sender body : String) (ts : List Token) : Prop :=
  SaysObject [("from", [.text (some sender)]), ("body", [.text (some body)])] ts

theorem shows_reader : Shows Message.reader rawReader texts :=
  (shows_record₂ Name.shows_reader Body.shows_reader).of_map fun _ => rfl

theorem reads_rawReader {sender body : String} (h : Said sender body ts) :
    Reads rawReader ts (sender, body) :=
  reads_object₂ (f := .required "from" .text) (g := .required "body" .text) (by decide)
    (reads_text sender) (reads_text body) h

theorem reads_reader {message : Message} (h : Said message.sender.text message.body.text ts) :
    Reads Message.reader ts message := by
  have hobject := reads_object₂ (f := .required "from" Name.reader)
    (g := .required "body" Body.reader) (by decide) message.sender.reads_reader
    message.body.reads_reader h
  exact hobject.map fun pair => (⟨pair.1, pair.2⟩ : Message)

/-- **What a message is read from holds its texts as they are.** -/
theorem texts_of_read {message : Message} (h : Message.reader.read source = .ok message) :
    rawReader.read source = .ok message.texts :=
  shows_reader.read h

/-- **Two texts are read as the message that has them**, so without one they are refused. -/
theorem read_iff_of_said {sender body : String} {message : Message} (h : Said sender body ts)
    (hwording : Wording blanks source.toList ts) :
    Message.reader.read source = .ok message ↔
      message.sender.text = sender ∧ message.body.text = body := by
  constructor
  · intro hread
    have hraw := texts_of_read hread
    rw [(reads_rawReader h).read_wording hwording] at hraw
    obtain ⟨hsender, hbody⟩ := Prod.mk.inj (Except.ok.inj hraw)
    exact ⟨hsender.symm, hbody.symm⟩
  · rintro ⟨rfl, rfl⟩
    exact (reads_reader h).read_wording hwording

end Message

namespace Delivery

/-- Reads a delivery without checking its texts. -/
def rawReader : Reader ((String × String) × Timestamp) :=
  record₂ (.required "message" Message.rawReader) (.required "received_at" Timestamp.reader)

/-- The texts of a delivery and its time stamp. -/
def texts (delivery : Delivery) : (String × String) × Timestamp :=
  (delivery.message.texts, delivery.receivedAt)

/-- Tokens of a delivery's object. -/
def Said (sender body : String) (stamp : Timestamp) (ts : List Token) : Prop :=
  ∃ inner, Message.Said sender body inner ∧
    SaysObject [("message", inner), ("received_at", [.number (.integer stamp.millis.toInt)])] ts

theorem shows_reader : Shows Delivery.reader rawReader texts :=
  (shows_record₂ Message.shows_reader (shows_refl Timestamp.reader)).of_map fun _ => rfl

theorem reads_rawReader {sender body : String} {stamp : Timestamp} (h : Said sender body stamp ts) :
    Reads rawReader ts ((sender, body), stamp) := by
  obtain ⟨inner, hinner, hobject⟩ := h
  exact reads_object₂ (f := .required "message" Message.rawReader)
    (g := .required "received_at" Timestamp.reader) (by decide) (Message.reads_rawReader hinner)
    stamp.reads_reader hobject

theorem reads_reader {delivery : Delivery}
    (h : Said delivery.message.sender.text delivery.message.body.text delivery.receivedAt ts) :
    Reads Delivery.reader ts delivery := by
  obtain ⟨inner, hinner, hobject⟩ := h
  have hread := reads_object₂ (f := .required "message" Message.reader)
    (g := .required "received_at" Timestamp.reader) (by decide) (Message.reads_reader hinner)
    delivery.receivedAt.reads_reader hobject
  exact hread.map fun pair => (⟨pair.1, pair.2⟩ : Delivery)

/-- **What a delivery is read from holds its texts as they are.** -/
theorem texts_of_read {delivery : Delivery} (h : Delivery.reader.read source = .ok delivery) :
    rawReader.read source = .ok delivery.texts :=
  shows_reader.read h

/-- **Two texts and a time stamp are read as the delivery that has them.** -/
theorem read_iff_of_said {sender body : String} {stamp : Timestamp} {delivery : Delivery}
    (h : Said sender body stamp ts) (hwording : Wording blanks source.toList ts) :
    Delivery.reader.read source = .ok delivery ↔
      delivery.message.sender.text = sender ∧ delivery.message.body.text = body ∧
        delivery.receivedAt = stamp := by
  constructor
  · intro hread
    have hraw := texts_of_read hread
    rw [(reads_rawReader h).read_wording hwording] at hraw
    obtain ⟨htexts, hstamp⟩ := Prod.mk.inj (Except.ok.inj hraw)
    obtain ⟨hsender, hbody⟩ := Prod.mk.inj htexts
    exact ⟨hsender.symm, hbody.symm, hstamp.symm⟩
  · rintro ⟨rfl, rfl, rfl⟩
    exact (reads_reader h).read_wording hwording

end Delivery

end BroadcastChat
