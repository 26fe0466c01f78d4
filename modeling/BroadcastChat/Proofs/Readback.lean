/-
# What is printed is read back

A reader that takes a value off its tokens, whatever follows them, reads it out
of every text that these tokens spell. What a record's tokens are read as comes
from its fields; so a chat frame and a delivery frame are read back as they were,
whatever their texts hold and whatever word their time stamp is.

Key definition: `Json.Reader.Reads`.
Key theorems: `Json.Reader.reads_record₂`, `Json.Reader.Reads.read`,
`ChatFrame.read_json`, `DeliveryFrame.read_json`.
-/
import BroadcastChat.Proofs.Spelling
import BroadcastChat.Wire

namespace BroadcastChat

namespace Json.Reader

/-- Wherever these tokens stand first, the reader takes them, as this value. -/
def Reads {α : Type} (reader : Reader α) (ts : List Token) (a : α) : Prop :=
  ∀ rest, reader.run (ts ++ rest) = .ok (a, rest)

variable {α β σ : Type} {reader : Reader α} {ts us : List Token} {a : α} {b : β}

theorem reads_text (value : String) : Reads text [.text (some value)] value := fun _ => rfl

theorem reads_integer {low high value : Int} (h : low ≤ value ∧ value ≤ high) :
    Reads (integer low high) [.number (.integer value)] value := fun _ => if_pos h

theorem Reads.map (h : Reads reader ts a) (f : α → β) : Reads (reader.map f) ts (f a) := by
  intro rest
  change (reader.run (ts ++ rest) >>= _) = _
  rw [h]
  rfl

/-! ### Records -/

section

variable {slot : String → σ → Except Fault (Reader σ)} {key : String} {state after : σ}
  {value : Reader σ}

/-- What follows a member says how the object goes on. -/
theorem members_member (hslot : slot key state = .ok value) (h : Reads value ts after)
    (rest : List Token) :
    members slot state (.text (some key) :: .colon :: ts ++ rest) =
      match rest with
      | .closeObject :: rest => .ok (after, rest)
      | .comma :: rest => members slot after rest
      | rest => .error (Fault.malformed.unless rest) := by
  have hrun := h rest
  rw [List.cons_append, List.cons_append, members.eq_def]
  simp only [hslot]
  have hcolon : expect .colon (.colon :: (ts ++ rest)) = .ok (ts ++ rest) := by simp [expect]
  split
  · rename_i hfault
    rw [hcolon] at hfault
    cases hfault
  · rename_i hvalue
    rw [hcolon] at hvalue
    cases hvalue
    split
    all_goals
      rename_i hread
      rw [hrun] at hread
      cases hread
    · rfl
    · rfl
    · rename_i hclose hcomma
      split
      · exact absurd rfl (hclose _)
      · exact absurd rfl (hcomma _)
      · rfl

end

theorem reads_record₂ {f : Field α} {g : Field β} (hkeys : g.key ≠ f.key)
    (hf : Reads f.reader ts a) (hg : Reads g.reader us b) :
    Reads (record₂ f g) (objectTokens [(f.key, ts), (g.key, us)]) (a, b) := by
  intro rest
  have hfirst : slot₂ f g f.key (none, none) =
      .ok (f.reader.map fun a => (some a, none)) := if_pos rfl
  have hsecond : slot₂ f g g.key (some a, none) =
      .ok (g.reader.map fun b => (some a, some b)) := by
    rw [slot₂, if_neg hkeys, if_pos rfl]
    rfl
  have hmembers : members (slot₂ f g) (none, none)
      (.text (some f.key) :: .colon :: ts ++
        .comma :: (.text (some g.key) :: .colon :: us ++ .closeObject :: rest)) =
      .ok ((some a, some b), rest) := by
    rw [members_member hfirst (hf.map _)]
    exact members_member hsecond (hg.map _) _
  have htokens : objectTokens [(f.key, ts), (g.key, us)] ++ rest =
      .openObject :: (.text (some f.key) :: .colon :: ts ++
        .comma :: (.text (some g.key) :: .colon :: us ++ .closeObject :: rest)) := by
    simp [objectTokens, List.intercalate_cons_cons]
  rw [htokens]
  change (members (slot₂ f g) (none, none) (.text (some f.key) :: .colon :: ts ++ _) >>= _) = _
  rw [hmembers]
  rfl

/-! ### Whole texts -/

theorem Reads.read_tokens (h : Reads reader ts a) {source : String}
    (htokens : Token.ofText source = ts) : reader.read source = .ok a := by
  have hrun := h []
  rw [List.append_nil] at hrun
  rw [Reader.read, htokens, readTokens, hrun]

/-- **A value is read out of every text that its tokens spell.** -/
theorem Reads.read (h : Reads reader ts a) {source : String} (hspells : Spells source.toList ts) :
    reader.read source = .ok a :=
  h.read_tokens hspells.ofText_eq

end Json.Reader

open Json Json.Reader

/-! ### Frames -/

namespace ChatFrame

/-- The tokens of a chat frame. -/
def tokens (frame : ChatFrame) : List Token :=
  objectTokens [("from", [.text (some frame.sender)]), ("message", [.text (some frame.text)])]

theorem spells_json (frame : ChatFrame) : Spells frame.json.toList frame.tokens := by
  refine spells_object [("from", Quoted.encode frame.sender, [.text (some frame.sender)]),
    ("message", Quoted.encode frame.text, [.text (some frame.text)])] fun m hm => ?_
  rcases List.mem_pair.1 hm with rfl | rfl
  · exact spells_encode frame.sender
  · exact spells_encode frame.text

theorem reads_tokens (frame : ChatFrame) : Reads reader frame.tokens frame :=
  (reads_record₂ (by decide) (reads_text frame.sender) (reads_text frame.text)).map _

theorem read_json (frame : ChatFrame) : reader.read frame.json = .ok frame :=
  frame.reads_tokens.read frame.spells_json

end ChatFrame

/-- A time stamp is within the bounds of its word. -/
theorem Timestamp.millis_bounds (stamp : Timestamp) :
    Word.signedMin ≤ stamp.millis.toInt ∧ stamp.millis.toInt ≤ Word.signedMax := by
  have hlow := stamp.millis.le_toInt
  have hhigh := stamp.millis.toInt_lt
  rw [Word.signedMin, Word.signedMax]
  omega

theorem Timestamp.spells_text (stamp : Timestamp) :
    Spells stamp.text.toList [.number (.integer stamp.millis.toInt)] :=
  spells_integer stamp.millis_bounds.1 (Int.le_trans stamp.millis_bounds.2 (by decide))

theorem Timestamp.reads_reader (stamp : Timestamp) :
    Reads reader [.number (.integer stamp.millis.toInt)] stamp := by
  have hreads := (reads_integer stamp.millis_bounds).map fun value =>
    (⟨Int64.ofInt value⟩ : Timestamp)
  rw [Int64.ofInt_toInt] at hreads
  exact hreads

namespace DeliveryFrame

/-- The tokens of a delivery frame. -/
def tokens (frame : DeliveryFrame) : List Token :=
  objectTokens [("timestamp", [.number (.integer frame.timestamp.millis.toInt)]),
    ("message", frame.message.tokens)]

theorem spells_json (frame : DeliveryFrame) : Spells frame.json.toList frame.tokens := by
  refine spells_object [("timestamp", frame.timestamp.text,
      [.number (.integer frame.timestamp.millis.toInt)]),
    ("message", frame.message.json, frame.message.tokens)] fun m hm => ?_
  rcases List.mem_pair.1 hm with rfl | rfl
  · exact frame.timestamp.spells_text
  · exact frame.message.spells_json

theorem reads_tokens (frame : DeliveryFrame) : Reads reader frame.tokens frame :=
  (reads_record₂ (by decide) frame.timestamp.reads_reader frame.message.reads_tokens).map _

/-- **A delivery frame is read back from what is printed of it.** -/
theorem read_json (frame : DeliveryFrame) : reader.read frame.json = .ok frame :=
  frame.reads_tokens.read frame.spells_json

end DeliveryFrame

end BroadcastChat
