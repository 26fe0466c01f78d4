/-
# Forms

The names and values of a query (`application/x-www-form-urlencoded`). A pair
is written with an equals sign, pairs are separated by ampersands. In names and
values a space is written as a plus sign; letters, digits and `*-._` stand for
themselves, and every other byte is percent-encoded. Reading is forgiving: empty
pieces are no pairs, a piece without an equals sign is a name with an empty value,
and what is no text becomes the replacement character.

Key definitions: `Form.encode`, `Form.decodeBytes`, `Form.pairs`.
Key theorem: `Form.escape_ascii`.
-/
import BroadcastChat.Text.Percent
import BroadcastChat.Text.Pieces

namespace BroadcastChat.Text.Form

/-! ### Writing -/

/-- Whether a byte stands for itself. -/
def isPlain (byte : UInt8) : Bool :=
  (0x30 ≤ byte && byte ≤ 0x39) || (0x41 ≤ byte && byte ≤ 0x5A) || (0x61 ≤ byte && byte ≤ 0x7A) ||
    byte == 0x2A || byte == 0x2D || byte == 0x2E || byte == 0x5F

/-- How a byte of a name or value is written. -/
def escape (byte : UInt8) : List Char :=
  if isPlain byte then [Percent.charOfByte byte]
  else if byte = 0x20 then ['+']
  else Percent.escape byte

/-- A name or value as it is written. -/
def encode (text : String) : String := String.ofList ((Utf8.encode text).flatMap escape)

/-! ### Reading -/

/-- A plus sign stands for a space. -/
def spaceOfPlus (byte : UInt8) : UInt8 := if byte = 0x2B then 0x20 else byte

/-- The text of a written name or value. -/
def decodeBytes (bytes : List UInt8) : String :=
  Utf8.decodeLossy (Percent.decode (bytes.map spaceOfPlus))

/-- A pair: the name up to the first equals sign, the value behind it. -/
def pair (piece : List UInt8) : String × String :=
  (decodeBytes (piece.takeWhile (· ≠ 0x3D)), decodeBytes ((piece.dropWhile (· ≠ 0x3D)).drop 1))

/-- The pairs of a query, in order. -/
def pairs (query : String) : List (String × String) :=
  ((pieces (· == 0x26) (Utf8.encode query)).filter (· ≠ [])).map pair

/-! ### Bytes of a written value -/

theorem spaceOfPlus_of_ne {byte : UInt8} (h : byte ≠ 0x2B) : spaceOfPlus byte = byte := by
  simp [spaceOfPlus, h]

theorem escape_ascii (byte : UInt8) : ∀ c ∈ escape byte, c.toNat < 128 := by
  unfold escape
  split
  · rename_i hplain
    have hlt : byte.toNat < 128 := by
      simp only [isPlain, Bool.or_eq_true, Bool.and_eq_true, decide_eq_true_eq, beq_iff_eq,
        UInt8.le_iff_toNat_le] at hplain
      rcases hplain with (((((h | h) | h) | h) | h) | h) | h
      · exact Nat.lt_of_le_of_lt h.2 (by decide)
      · exact Nat.lt_of_le_of_lt h.2 (by decide)
      · exact Nat.lt_of_le_of_lt h.2 (by decide)
      all_goals subst h; decide
    simpa [Percent.toNat_charOfByte] using hlt
  split
  · intro c hc
    simp only [List.mem_singleton] at hc
    subst hc
    decide
  · exact Percent.escape_ascii byte

end BroadcastChat.Text.Form
