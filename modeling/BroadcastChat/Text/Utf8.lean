/-
# UTF-8

The bytes of a text, and reading bytes that need not be those of any text. A
character's first byte says how many follow and, for some first bytes, narrows
the range of the second; bytes that start a character as far as they go but are
not followed by what it needs are one stray piece, and so is every byte that
starts no character. Reading reports each stray piece where it stands.

Key definitions: `Utf8.encode`, `Utf8.decode`, `Utf8.decodeLossy`.
Key theorems: `Utf8.decode_encode`, `Utf8.decodeLossy_encode`.
-/

namespace BroadcastChat.Text.Utf8

/-! ### Writing -/

/-- The bytes of a text. -/
def encode (text : String) : List UInt8 := text.toList.flatMap String.utf8EncodeChar

/-! ### Reading -/

/-- A character of which some bytes are still missing: how many, the range of the next one, and
the bits met so far. -/
structure Unfinished where
  missing : Nat
  low : Nat
  high : Nat
  bits : Nat
  deriving DecidableEq, Repr

/-- What a first byte announces, if it is one of several bytes. -/
def announced? (b : Nat) : Option Unfinished :=
  if 0xC2 ≤ b ∧ b ≤ 0xDF then some ⟨1, 0x80, 0xBF, b % 32⟩
  else if 0xE0 ≤ b ∧ b ≤ 0xEF then
    some ⟨2, if b = 0xE0 then 0xA0 else 0x80, if b = 0xED then 0x9F else 0xBF, b % 16⟩
  else if 0xF0 ≤ b ∧ b ≤ 0xF4 then
    some ⟨3, if b = 0xF0 then 0x90 else 0x80, if b = 0xF4 then 0x8F else 0xBF, b % 8⟩
  else none

/-- How far reading has come: the characters met, last one first and `none` for a stray piece,
and the one that is not complete yet. -/
structure Progress where
  met : List (Option Char)
  unfinished : Option Unfinished
  deriving DecidableEq, Repr

namespace Progress

/-- Nothing has been read. -/
def start : Progress := ⟨[], none⟩

/-- A byte where a character may start. -/
def begin (met : List (Option Char)) (b : Nat) : Progress :=
  if b < 0x80 then ⟨some (Char.ofNat b) :: met, none⟩
  else
    match announced? b with
    | some unfinished => ⟨met, some unfinished⟩
    | none => ⟨none :: met, none⟩

/-- One more byte. -/
def feed (progress : Progress) (byte : UInt8) : Progress :=
  let b := byte.toNat
  match progress.unfinished with
  | none => begin progress.met b
  | some u =>
    if u.low ≤ b ∧ b ≤ u.high then
      let bits := u.bits * 64 + b % 64
      if u.missing ≤ 1 then ⟨some (Char.ofNat bits) :: progress.met, none⟩
      else ⟨progress.met, some ⟨u.missing - 1, 0x80, 0xBF, bits⟩⟩
    else begin (none :: progress.met) b

/-- No more bytes: what is not complete now is stray. -/
def finish (progress : Progress) : List (Option Char) :=
  match progress.unfinished with
  | none => progress.met.reverse
  | some _ => (none :: progress.met).reverse

end Progress

/-- The characters of a byte list, `none` for every stray piece. -/
def decode (bytes : List UInt8) : List (Option Char) :=
  (bytes.foldl Progress.feed .start).finish

/-- What stands for a stray piece in a text. -/
def replacement : Char := '\uFFFD'

/-- The text of a byte list, with the replacement character for every stray piece. -/
def decodeLossy (bytes : List UInt8) : String :=
  String.ofList ((decode bytes).map fun c => c.getD replacement)

/-! ### The bytes of a text are read as that text -/

theorem toNat_ofNat {b : Nat} (hb : b < 256) : (UInt8.ofNat b).toNat = b := by
  simp [Nat.mod_eq_of_lt hb]

/-- A byte that announces others. -/
theorem feed_first (met : List (Option Char)) {b : Nat} {u : Unfinished} (hb : b < 256)
    (hlow : 0x80 ≤ b) (h : announced? b = some u) :
    Progress.feed ⟨met, none⟩ (UInt8.ofNat b) = ⟨met, some u⟩ := by
  simp only [Progress.feed, toNat_ofNat hb, Progress.begin, h]
  rw [if_neg (by omega)]

/-- A byte that is announced and not the last one. -/
theorem feed_next (met : List (Option Char)) {b missing low high bits : Nat} (hb : b < 256)
    (hlow : low ≤ b) (hhigh : b ≤ high) :
    Progress.feed ⟨met, some ⟨missing + 2, low, high, bits⟩⟩ (UInt8.ofNat b) =
      ⟨met, some ⟨missing + 1, 0x80, 0xBF, bits * 64 + b % 64⟩⟩ := by
  simp [Progress.feed, toNat_ofNat hb, hlow, hhigh]

/-- The last byte of a character. -/
theorem feed_last (met : List (Option Char)) {b low high bits : Nat} (hb : b < 256)
    (hlow : low ≤ b) (hhigh : b ≤ high) :
    Progress.feed ⟨met, some ⟨1, low, high, bits⟩⟩ (UInt8.ofNat b) =
      ⟨some (Char.ofNat (bits * 64 + b % 64)) :: met, none⟩ := by
  simp [Progress.feed, toNat_ofNat hb, hlow, hhigh]

theorem announced?_two {b : Nat} (hlow : 0xC2 ≤ b) (hhigh : b ≤ 0xDF) :
    announced? b = some ⟨1, 0x80, 0xBF, b % 32⟩ := by
  simp [announced?, hlow, hhigh]

theorem announced?_three {b : Nat} (hlow : 0xE0 ≤ b) (hhigh : b ≤ 0xEF) :
    announced? b =
      some ⟨2, if b = 0xE0 then 0xA0 else 0x80, if b = 0xED then 0x9F else 0xBF, b % 16⟩ := by
  simp [announced?, hlow, hhigh, show ¬b ≤ 0xDF by omega]

theorem announced?_four {b : Nat} (hlow : 0xF0 ≤ b) (hhigh : b ≤ 0xF4) :
    announced? b =
      some ⟨3, if b = 0xF0 then 0x90 else 0x80, if b = 0xF4 then 0x8F else 0xBF, b % 8⟩ := by
  simp [announced?, hlow, hhigh, show ¬b ≤ 0xDF by omega, show ¬b ≤ 0xEF by omega]

/-- The bytes of a character are read as that character. -/
theorem foldl_feed_utf8EncodeChar (met : List (Option Char)) (c : Char) :
    (String.utf8EncodeChar c).foldl Progress.feed ⟨met, none⟩ = ⟨some c :: met, none⟩ := by
  have hc : Char.ofNat c.toNat = c := Char.ofNat_toNat c
  have hv : c.val.toNat = c.toNat := rfl
  have hvalid : c.toNat < 0xD800 ∨ 0xDFFF < c.toNat ∧ c.toNat < 0x110000 := c.valid
  generalize c.toNat = v at hc hv hvalid
  unfold String.utf8EncodeChar
  simp only [hv]
  split
  · simp only [List.foldl_cons, List.foldl_nil, Progress.feed, Progress.begin]
    rw [toNat_ofNat (by omega), if_pos (by omega), hc]
  split
  · simp only [List.foldl_cons, List.foldl_nil]
    rw [feed_first met (by omega) (by omega) (announced?_two (by omega) (by omega)),
      feed_last met (by omega) (by omega) (by omega), ← hc]
    congr 4
    omega
  split
  · simp only [List.foldl_cons, List.foldl_nil]
    rw [feed_first met (by omega) (by omega) (announced?_three (by omega) (by omega)),
      feed_next met (by omega) (by split <;> omega) (by split <;> omega),
      feed_last met (by omega) (by omega) (by omega), ← hc]
    congr 4
    omega
  · simp only [List.foldl_cons, List.foldl_nil]
    rw [feed_first met (by omega) (by omega) (announced?_four (by omega) (by omega)),
      feed_next met (by omega) (by split <;> omega) (by split <;> omega),
      feed_next met (by omega) (by omega) (by omega),
      feed_last met (by omega) (by omega) (by omega), ← hc]
    congr 4
    omega

theorem foldl_feed_encode (cs : List Char) (met : List (Option Char)) :
    (cs.flatMap String.utf8EncodeChar).foldl Progress.feed ⟨met, none⟩ =
      ⟨(cs.map some).reverse ++ met, none⟩ := by
  induction cs generalizing met with
  | nil => rfl
  | cons c cs ih =>
    rw [List.flatMap_cons, List.foldl_append, foldl_feed_utf8EncodeChar, ih]
    simp

/-- A text's bytes hold its characters and nothing stray. -/
theorem decode_encode (text : String) : decode (encode text) = text.toList.map some := by
  simp [decode, encode, Progress.start, foldl_feed_encode, Progress.finish]

theorem decodeLossy_encode (text : String) : decodeLossy (encode text) = text := by
  simp [decodeLossy, decode_encode, Function.comp_def]

end BroadcastChat.Text.Utf8
