/-
# Percent-encoding

A byte may be written as a percent sign and its two hexadecimal digits. Which
bytes have to be is for the caller to say. Decoding leaves a percent sign that
no two digits follow as it is.

Key definitions: `Percent.escape`, `Percent.encode`, `Percent.decode`.
Key theorems: `Percent.mem_escape`, `Percent.encode_ofList_of_ascii`, `Percent.digit?_upper`.
-/
import BroadcastChat.Text.Hex
import BroadcastChat.Text.Utf8

namespace BroadcastChat.Text.Percent

/-- A byte as a percent sign and two digits. -/
def escape (byte : UInt8) : List Char :=
  ['%', Hex.upper (byte.toNat / 16), Hex.upper (byte.toNat % 16)]

/-- The ASCII character of a byte. -/
def charOfByte (byte : UInt8) : Char := Char.ofNat byte.toNat

/-- A text in ASCII: a byte that `keep` holds of stands for itself, any other one is escaped.
`keep` may hold of ASCII bytes only. -/
def encode (keep : UInt8 → Bool) (text : String) : List Char :=
  (Utf8.encode text).flatMap fun byte => if keep byte then [charOfByte byte] else escape byte

/-- The value of a byte that is a hexadecimal digit. -/
def digit? (byte : UInt8) : Option Nat := Hex.value? (charOfByte byte)

/-- The bytes that percent-encoded ones stand for. -/
def decode : List UInt8 → List UInt8
  | 0x25 :: high :: low :: rest =>
    match digit? high, digit? low with
    | some high, some low => UInt8.ofNat (high * 16 + low) :: decode rest
    | _, _ => 0x25 :: decode (high :: low :: rest)
  | byte :: rest => byte :: decode rest
  | [] => []

/-! ### ASCII texts -/

/-- The bytes of ASCII characters. -/
def bytesOf (cs : List Char) : List UInt8 := cs.map fun c => UInt8.ofNat c.toNat

theorem toNat_charOfByte (byte : UInt8) : (charOfByte byte).toNat = byte.toNat := by
  have hb : byte.toNat < 256 := byte.toNat_lt
  have hvalid : byte.toNat.isValidChar := .inl (by omega)
  unfold charOfByte Char.ofNat
  rw [dif_pos hvalid]
  rfl

theorem ofNat_charOfByte (byte : UInt8) : UInt8.ofNat (charOfByte byte).toNat = byte := by
  simp [toNat_charOfByte]

theorem encode_ofList_of_ascii {cs : List Char} (h : ∀ c ∈ cs, c.toNat < 128) :
    Utf8.encode (String.ofList cs) = bytesOf cs := by
  rw [Utf8.encode, String.toList_ofList]
  induction cs with
  | nil => rfl
  | cons c cs ih =>
    have hc : c.toNat < 128 := h c (by simp)
    rw [List.flatMap_cons, ih fun d hd => h d (by simp [hd])]
    simp [bytesOf, String.utf8EncodeChar, show c.toNat ≤ 127 by omega]

theorem mem_escape {byte : UInt8} {c : Char} (h : c ∈ escape byte) :
    c = '%' ∨ ∃ n < 16, c = Hex.upper n := by
  have hb : byte.toNat < 256 := byte.toNat_lt
  simp only [escape, List.mem_cons, List.not_mem_nil, or_false] at h
  rcases h with rfl | rfl | rfl
  · exact .inl rfl
  · exact .inr ⟨_, by omega, rfl⟩
  · exact .inr ⟨_, by omega, rfl⟩

theorem escape_ascii (byte : UInt8) : ∀ c ∈ escape byte, c.toNat < 128 := by
  intro c hc
  rcases mem_escape hc with rfl | ⟨n, hn, rfl⟩
  · decide
  · exact Hex.upper_lt hn

/-! ### Reading -/

theorem digit?_upper {n : Nat} (h : n < 16) :
    digit? (UInt8.ofNat (Hex.upper n).toNat) = some n := by
  have hlt := Hex.upper_lt h
  simp only [digit?, charOfByte]
  rw [Utf8.toNat_ofNat (by omega), Char.ofNat_toNat, Hex.value?_upper h]

theorem decode_cons_of_ne {byte : UInt8} (h : byte ≠ 0x25) (rest : List UInt8) :
    decode (byte :: rest) = byte :: decode rest := by
  rw [decode]
  intro _ _ _ heq
  simp_all

end BroadcastChat.Text.Percent
