/-
# Which texts are chat frames

A text is a chat frame if it is a JSON object in which the name of the sender
stands once and the text once or not at all, among members of any other names
with any well-formed values, or a JSON array of one or two texts. The reader
takes exactly these texts, for what they say: neither the order of the members
nor blanks, escapes or other members make a difference.

Key definitions: `ChatFrame.Document`, `ChatFrame.isKnown`.
Key theorem: `chat_frame_documents`.
-/
import BroadcastChat.Proofs.Exactness

namespace BroadcastChat

open Json Json.Reader

/-! ### Members that count -/

namespace Json

variable {key : String} {ms ms' : List (String × List Token)} {known : String → Bool}

theorem values_filter (h : known key = true) :
    values key (ms.filter fun m => known m.1) = values key ms := by
  rw [values, values, List.filter_filter]
  refine congrArg (List.map Prod.snd) (List.filter_congr fun m _ => ?_)
  by_cases hkey : m.1 = key
  · simp [hkey, h]
  · simp [hkey]

theorem values_perm (h : ms.Perm ms') : (values key ms).Perm (values key ms') :=
  (h.filter _).map _

/-- A field does not tell apart objects whose members that count are the same up to order. -/
theorem Field.filled_of_perm {α : Type} {field : Field α} {a : α} (hkey : known field.key = true)
    (hperm : (ms.filter fun m => known m.1).Perm (ms'.filter fun m => known m.1))
    (h : field.Filled ms a) : field.Filled ms' a := by
  have hvalues : (values field.key ms).Perm (values field.key ms') := by
    have hfiltered : (values field.key (ms.filter fun m => known m.1)).Perm
        (values field.key (ms'.filter fun m => known m.1)) := values_perm hperm
    rwa [values_filter hkey, values_filter hkey] at hfiltered
  rcases h with ⟨ts, hts, hreads⟩ | ⟨hnone, hfallback⟩
  · rw [hts] at hvalues
    exact .inl ⟨ts, List.perm_singleton.1 hvalues.symm, hreads⟩
  · rw [hnone] at hvalues
    exact .inr ⟨List.perm_nil.1 hvalues.symm, hfallback⟩

end Json

namespace ChatFrame

/-- The tokens of a chat frame's document. -/
inductive Document : ChatFrame → List Token → Prop
  /-- One member for the sender, at most one for the text, and members of any other names. -/
  | object {frame : ChatFrame} {members : List (String × List Token)}
    (hvalues : ∀ m ∈ members, IsValue m.2)
    (hsender : values "from" members = [[.text (some frame.sender)]])
    (htext : values "message" members = [[.text (some frame.text)]] ∨
      values "message" members = [] ∧ frame.text = "") :
    Document frame (objectTokens members)
  | sender (sender : String) : Document ⟨sender, ""⟩ (Bracket.array.tokens [[.text (some sender)]])
  | both (frame : ChatFrame) : Document frame
      (Bracket.array.tokens [[.text (some frame.sender)], [.text (some frame.text)]])

/-- Whether members of this name say anything about a chat frame. -/
def isKnown (key : String) : Bool := key = "from" || key = "message"

variable {frame : ChatFrame} {ts : List Token} {ms ms' : List (String × List Token)}

/-- The field of the sender. -/
def senderField : Json.Field String := .required "from" .text

/-- The field of the text, which is empty if it is missing. -/
def textField : Json.Field String := ⟨"message", .text, some ""⟩

theorem filled_senderField {sender : String} :
    senderField.Filled ms sender ↔ values "from" ms = [[.text (some sender)]] := by
  constructor
  · rintro (⟨ts, hts, hreads⟩ | ⟨-, hfallback⟩)
    · rw [← reads_text_iff.1 hreads]
      exact hts
    · cases hfallback
  · intro h
    exact .inl ⟨_, h, reads_text sender⟩

theorem filled_textField {text : String} :
    textField.Filled ms text ↔
      values "message" ms = [[.text (some text)]] ∨ values "message" ms = [] ∧ text = "" := by
  constructor
  · rintro (⟨ts, hts, hreads⟩ | ⟨hnone, hfallback⟩)
    · rw [← reads_text_iff.1 hreads]
      exact .inl hts
    · exact .inr ⟨hnone, (Option.some.inj hfallback).symm⟩
  · rintro (h | ⟨hnone, rfl⟩)
    · exact .inl ⟨_, h, reads_text text⟩
    · exact .inr ⟨hnone, rfl⟩

theorem document_iff :
    frame.Document ts ↔ IsRecord senderField textField frame.sender frame.text ts := by
  constructor
  · intro h
    cases h with
    | object hvalues hsender htext =>
      exact .object hvalues (filled_senderField.2 hsender) (filled_textField.2 htext)
    | sender sender => exact .array (.first (reads_text sender) rfl)
    | both => exact .array (.both (reads_text _) (reads_text _))
  · intro h
    obtain ⟨sender, text⟩ := frame
    cases h with
    | object hvalues hsender htext =>
      exact .object hvalues (filled_senderField.1 hsender) (filled_textField.1 htext)
    | array hlisted =>
      cases hlisted with
      | nil hcontra _ => cases hcontra
      | first hsender htext =>
        obtain rfl := reads_text_iff.1 hsender
        cases htext
        exact .sender sender
      | both hsender htext =>
        obtain rfl := reads_text_iff.1 hsender
        obtain rfl := reads_text_iff.1 htext
        exact .both ⟨sender, text⟩

/-- **What the reader of chat frames takes are their documents.** -/
theorem reads_reader_iff : Reads ChatFrame.reader ts frame ↔ frame.Document ts := by
  have hrecord : Exact (record₂ senderField textField) :=
    exact_record₂ (by decide) exact_text exact_text
  have hreader : Reads ChatFrame.reader ts frame ↔
      ∃ pair, Reads (record₂ senderField textField) ts pair ∧ ChatFrame.mk pair.1 pair.2 = frame :=
    reads_map_iff hrecord
  rw [hreader, document_iff]
  constructor
  · rintro ⟨⟨sender, text⟩, hreads, rfl⟩
    exact (reads_record₂_iff (by decide) exact_text exact_text).1 hreads
  · intro h
    exact ⟨(frame.sender, frame.text),
      (reads_record₂_iff (by decide) exact_text exact_text).2 h, rfl⟩

theorem exact_reader : Exact ChatFrame.reader :=
  (exact_record₂ (f := senderField) (g := textField) (by decide) exact_text exact_text).map _

theorem document_of_perm (hvalues : ∀ m ∈ ms, IsValue m.2) (hvalues' : ∀ m ∈ ms', IsValue m.2)
    (hperm : (ms.filter fun m => isKnown m.1).Perm (ms'.filter fun m => isKnown m.1))
    (h : frame.Document (objectTokens ms)) : frame.Document (objectTokens ms') := by
  rw [document_iff] at h ⊢
  generalize hts : objectTokens ms = ts at h
  cases h with
  | object hvalues'' hsender htext =>
    obtain rfl := objectTokens_inj hvalues hvalues'' hts
    have hfrom : isKnown senderField.key = true := rfl
    have hmessage : isKnown textField.key = true := rfl
    exact .object hvalues' (Field.filled_of_perm hfrom hperm hsender)
      (Field.filled_of_perm hmessage hperm htext)
  | array hlisted => cases hts

end ChatFrame

/-- **Which texts are chat frames.** A text is read as a chat frame exactly when it writes, up to
blanks between tokens, an object with one member `from` that is a text denoting the sender and at
most one member `message` that is a text denoting what is said, which is empty if there is none,
besides members of any other names with any well-formed values; or an array of the one text or of
both. So texts that write the same tokens are read alike, whatever their blanks and escapes, and
objects whose members `from` and `message` are the same are read as the same frame, whatever the
order of their members and whatever other members they have. -/
theorem chat_frame_documents :
    (∀ (source : String) (frame : ChatFrame), ChatFrame.reader.read source = .ok frame ↔
      ∃ ts, Writing source.toList ts ∧ frame.Document ts) ∧
    (∀ (source source' : String) (ts : List Token), Writing source.toList ts →
      Writing source'.toList ts → ChatFrame.reader.read source = ChatFrame.reader.read source') ∧
    ∀ (source source' : String) (ms ms' : List (String × List Token)),
      Writing source.toList (objectTokens ms) → Writing source'.toList (objectTokens ms') →
      (∀ m ∈ ms, IsValue m.2) → (∀ m ∈ ms', IsValue m.2) →
      (ms.filter fun m => ChatFrame.isKnown m.1).Perm (ms'.filter fun m => ChatFrame.isKnown m.1) →
      ∀ frame, ChatFrame.reader.read source = .ok frame ↔
        ChatFrame.reader.read source' = .ok frame := by
  have hread : ∀ (source : String) (frame : ChatFrame), ChatFrame.reader.read source = .ok frame ↔
      ∃ ts, Writing source.toList ts ∧ frame.Document ts := by
    intro source frame
    simp only [ChatFrame.exact_reader.read_iff, ChatFrame.reads_reader_iff]
  have hdocument : ∀ (source : String) (ts : List Token), Writing source.toList ts →
      ∀ frame, ChatFrame.reader.read source = .ok frame ↔ frame.Document ts := by
    intro source ts hwriting frame
    rw [hread]
    constructor
    · rintro ⟨ts', hwriting', hframe⟩
      rwa [← hwriting.ofText_eq, hwriting'.ofText_eq]
    · exact fun hframe => ⟨ts, hwriting, hframe⟩
  refine ⟨hread, ?_, ?_⟩
  · intro source source' ts hwriting hwriting'
    rw [Reader.read, Reader.read, hwriting.ofText_eq, hwriting'.ofText_eq]
  · intro source source' ms ms' hwriting hwriting' hvalues hvalues' hperm frame
    rw [hdocument source _ hwriting, hdocument source' _ hwriting']
    exact ⟨ChatFrame.document_of_perm hvalues hvalues' hperm,
      ChatFrame.document_of_perm hvalues' hvalues hperm.symm⟩

/-! ### One frame, written twice -/

namespace Sample

/-- A chat frame between blanks, with an unknown member in which an escape denotes no text, and an
escaped surrogate pair. -/
def scattered : String :=
  "\n\x7b \"x\" : [\x7b\"y\":\"\\ud800\"\x7d, 1e5], \"message\" : \"\\u0068\\ud83d\\ude00\" , \"from\":\"ann\"\x7d\t"

/-- The same frame without blanks and in the other order. -/
def compact : String := "\x7b\"from\":\"a\\u006en\",\"message\":\"h😀\"\x7d"

/-- The unknown member's value. -/
def foreignValue : List Token :=
  Bracket.array.tokens
    [Bracket.object.tokens [memberTokens (some "y", [.text none])], [.number .fractional]]

theorem isValue_foreignValue : IsValue foreignValue := by
  refine .array (List.forall_mem_cons.2 ⟨?_, List.forall_mem_singleton.2 (.scalar rfl)⟩)
  have hmembers : ∀ member ∈ [(some "y", [Token.text none])], IsValue member.2 :=
    List.forall_mem_singleton.2 (.scalar rfl)
  exact .object hmembers

/-- The members of the first text. -/
def scatteredMembers : List (String × List Token) :=
  [("x", foreignValue), ("message", [.text (some "h😀")]), ("from", [.text (some "ann")])]

/-- The members of the second text. -/
def compactMembers : List (String × List Token) :=
  [("from", [.text (some "ann")]), ("message", [.text (some "h😀")])]

theorem writing_scattered : Writing scattered.toList (objectTokens scatteredMembers) :=
  writing_iff.2 ⟨by decide +kernel, by decide⟩

theorem writing_compact : Writing compact.toList (objectTokens compactMembers) :=
  writing_iff.2 ⟨by decide +kernel, by decide⟩

theorem isValue_scatteredMembers : ∀ m ∈ scatteredMembers, IsValue m.2 :=
  List.forall_mem_cons.2 ⟨isValue_foreignValue, List.forall_mem_cons.2 ⟨.scalar rfl,
    List.forall_mem_singleton.2 (.scalar rfl)⟩⟩

theorem isValue_compactMembers : ∀ m ∈ compactMembers, IsValue m.2 :=
  List.forall_mem_cons.2 ⟨.scalar rfl, List.forall_mem_singleton.2 (.scalar rfl)⟩

end Sample

/-- Both texts are read as the same frame. -/
theorem chat_frame_documents_scattered :
    ChatFrame.reader.read Sample.scattered = .ok ⟨"ann", "h😀"⟩ ∧
      ChatFrame.reader.read Sample.compact = .ok ⟨"ann", "h😀"⟩ := by
  obtain ⟨hread, -, hperm⟩ := chat_frame_documents
  have hfirst : ChatFrame.reader.read Sample.scattered = .ok ⟨"ann", "h😀"⟩ :=
    (hread _ _).2 ⟨_, Sample.writing_scattered,
      .object Sample.isValue_scatteredMembers (by decide) (by decide)⟩
  exact ⟨hfirst, (hperm _ _ _ _ Sample.writing_scattered Sample.writing_compact
    Sample.isValue_scatteredMembers Sample.isValue_compactMembers (by decide) _).1 hfirst⟩

end BroadcastChat
