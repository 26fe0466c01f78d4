/-
# All the ways to write a query

The name that a listening client asks for stands in a query. A byte of it may
stand for itself, a space may be a plus sign, and every byte may be written by
its two hexadecimal digits, of either case. Which bytes write which is said
here without the reader, and the reader takes every writing for what it writes
(`Text.Form.pairs_spelled`), also for the one in which a query is printed
(`Text.Form.pairs_encode`).

Key definition: `Text.Form.Denotes`.
Key theorems: `Text.Form.decode_denotes`, `Text.Form.pairs_spelled`,
`Text.Form.spelled_encode`, `Text.Form.pairs_encode`.
-/
import BroadcastChat.Proofs.Wordings
import BroadcastChat.Text.Form

namespace BroadcastChat.Text.Form

/-- The ways to write a byte of a value. -/
inductive Denotes : List UInt8 → UInt8 → Prop
  | plain {byte : UInt8} (hpercent : byte ≠ 0x25) (hplus : byte ≠ 0x2B)
    (hseparator : byte ≠ 0x26) : Denotes [byte] byte
  | space : Denotes [0x2B] 0x20
  /-- The two digits of it. -/
  | escaped {high low : UInt8} {h l : Nat} (hhigh : Percent.digit? high = some h)
    (hlow : Percent.digit? low = some l) : Denotes [0x25, high, low] (UInt8.ofNat (h * 16 + l))

/-- A digit is neither a plus sign nor a separator. -/
theorem ne_of_digit {byte : UInt8} {value : Nat} (h : Percent.digit? byte = some value) :
    byte ≠ 0x2B ∧ byte ≠ 0x26 := by
  constructor
  · rintro rfl
    have hnone : Percent.digit? 0x2B = none := by decide
    rw [hnone] at h
    cases h
  · rintro rfl
    have hnone : Percent.digit? 0x26 = none := by decide
    rw [hnone] at h
    cases h

section

variable {piece : List UInt8} {byte : UInt8}

/-- **A byte is read whichever way it is written.** -/
theorem decode_denotes (h : Denotes piece byte) (rest : List UInt8) :
    Percent.decode (piece.map spaceOfPlus ++ rest) = byte :: Percent.decode rest := by
  cases h with
  | plain hpercent hplus hseparator =>
    rw [List.map_singleton, spaceOfPlus_of_ne hplus, List.singleton_append]
    exact Percent.decode_cons_of_ne hpercent rest
  | space => exact Percent.decode_cons_of_ne (by decide) rest
  | escaped hhigh hlow =>
    simp only [List.map_cons, List.map_nil,
      spaceOfPlus_of_ne (show (0x25 : UInt8) ≠ 0x2B by decide),
      spaceOfPlus_of_ne (ne_of_digit hhigh).1, spaceOfPlus_of_ne (ne_of_digit hlow).1,
      List.cons_append, List.nil_append]
    rw [Percent.decode, hhigh, hlow]

/-- No separator stands in what writes a byte. -/
theorem not_separator_of_denotes (h : Denotes piece byte) : ∀ b ∈ piece, (b == 0x26) = false := by
  intro b hb
  rw [beq_eq_false_iff_ne]
  cases h with
  | plain hpercent hplus hseparator =>
    cases List.mem_singleton.1 hb
    exact hseparator
  | space =>
    cases List.mem_singleton.1 hb
    decide
  | escaped hhigh hlow =>
    simp only [List.mem_cons, List.not_mem_nil, or_false] at hb
    rcases hb with rfl | rfl | rfl
    · decide
    · exact (ne_of_digit hhigh).2
    · exact (ne_of_digit hlow).2

end

variable {written bytes : List UInt8}

theorem decode_spelled (h : Spelled Denotes written bytes) :
    Percent.decode (written.map spaceOfPlus) = bytes := by
  obtain ⟨pieces, hpieces, rfl⟩ := h
  induction hpieces with
  | nil => rfl
  | cons hpiece hrest ih => rw [List.flatten_cons, List.map_append, decode_denotes hpiece, ih]

/-- **A text is read whichever way its bytes are written.** -/
theorem decodeBytes_spelled {text : String} (h : Spelled Denotes written (Utf8.encode text)) :
    decodeBytes written = text := by
  rw [decodeBytes, decode_spelled h, Utf8.decodeLossy_encode]

theorem not_separator_of_spelled (h : Spelled Denotes written bytes) :
    ∀ b ∈ written, (b == 0x26) = false := by
  obtain ⟨pieces, hpieces, rfl⟩ := h
  induction hpieces with
  | nil => exact fun b hb => absurd hb List.not_mem_nil
  | cons hpiece hrest ih =>
    intro b hb
    rcases List.mem_append.1 hb with hb | hb
    · exact not_separator_of_denotes hpiece b hb
    · exact ih b hb

/-- **A query that writes a name is one pair**, and its value is the name as it is. -/
theorem pairs_spelled {query text : String}
    (hquery : Utf8.encode query = Utf8.encode "name=" ++ written)
    (h : Spelled Denotes written (Utf8.encode text)) : pairs query = [("name", text)] := by
  have hkey : Utf8.encode "name=" = [0x6E, 0x61, 0x6D, 0x65, 0x3D] := by decide
  have hone : pieces (· == 0x26) (Utf8.encode query) = [Utf8.encode query] := by
    refine pieces_of_forall fun b hb => ?_
    rw [hquery, List.mem_append] at hb
    rcases hb with hb | hb
    · rw [hkey] at hb
      simp only [List.mem_cons, List.not_mem_nil, or_false] at hb
      rcases hb with rfl | rfl | rfl | rfl | rfl <;> decide
    · exact not_separator_of_spelled h b hb
  have hname : decodeBytes [0x6E, 0x61, 0x6D, 0x65] = "name" := by decide
  have hpair : pair (Utf8.encode query) = ("name", text) := by
    rw [hquery, hkey, pair, ← decodeBytes_spelled h]
    simp [hname]
  have hsome : Utf8.encode query ≠ [] := by
    rw [hquery, hkey]
    exact List.cons_ne_nil _ _
  rw [pairs, hone, List.filter_cons_of_pos (by simpa using hsome), List.filter_nil,
    List.map_singleton, hpair]

/-! ### The way in which it is printed -/

theorem denotes_escape (byte : UInt8) : Denotes (Percent.bytesOf (escape byte)) byte := by
  unfold escape
  split
  · rename_i hplain
    rw [Percent.bytesOf, List.map_singleton, Percent.ofNat_charOfByte]
    refine .plain ?_ ?_ ?_
    all_goals
      rintro rfl
      exact absurd hplain (by decide)
  split
  · rename_i hspace
    subst hspace
    exact .space
  · have hb : byte.toNat < 256 := byte.toNat_lt
    have hvalue : byte = UInt8.ofNat (byte.toNat / 16 * 16 + byte.toNat % 16) := by
      rw [show byte.toNat / 16 * 16 + byte.toNat % 16 = byte.toNat by omega, UInt8.ofNat_toNat]
    have hdigits := Denotes.escaped
      (Percent.digit?_upper (show byte.toNat / 16 < 16 by omega))
      (Percent.digit?_upper (show byte.toNat % 16 < 16 by omega))
    rwa [← hvalue] at hdigits

/-- What is printed is one of the ways to write a text. -/
theorem spelled_encode (text : String) :
    Spelled Denotes (Utf8.encode (encode text)) (Utf8.encode text) := by
  have hbytes : Utf8.encode (encode text) =
      Percent.bytesOf ((Utf8.encode text).flatMap escape) := by
    refine Percent.encode_ofList_of_ascii fun c hc => ?_
    obtain ⟨byte, _, hc⟩ := List.mem_flatMap.1 hc
    exact escape_ascii byte c hc
  refine ⟨(Utf8.encode text).map fun byte => Percent.bytesOf (escape byte), ?_, ?_⟩
  · exact List.forall₂_map_left_iff.2 (List.forall₂_same.2 fun byte _ => denotes_escape byte)
  · rw [hbytes, Percent.bytesOf, List.map_flatMap, List.flatMap_def]
    rfl

/-- **A name is found again in the query in which it is printed.** -/
theorem pairs_encode (text : String) : pairs ("name=" ++ encode text) = [("name", text)] := by
  refine pairs_spelled ?_ (spelled_encode text)
  rw [Utf8.encode, String.toList_append, List.flatMap_append]
  rfl

end BroadcastChat.Text.Form
