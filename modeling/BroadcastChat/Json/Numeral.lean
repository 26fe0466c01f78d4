/-
# Numbers in a JSON text

A numeral is an optional minus, a whole part without a leading zero, an
optional fraction and an optional exponent. What a reader may use of it is its
`Number`: an integer of a 64-bit word (signed below zero, unsigned above), a
number that only a floating-point word could hold, or one that is too large
even for that. A double is never built: `overflows` decides in exact
arithmetic whether the product of the significand and the power of ten, each
rounded to 53 bits, rounds past the largest double. A significand takes digits
as long as they fit an unsigned 64-bit word; the digits after that only count
towards the exponent.

Key definitions: `Numeral`, `Numeral.scan`, `Number`, `Numeral.number`.
Key theorem: `Numeral.scan_shrinks`.
-/
import BroadcastChat.Json.Fault
import BroadcastChat.Word

namespace BroadcastChat.Json

/-- What a numeral denotes, as far as a reader can tell numbers apart. -/
inductive Number where
  | integer (value : Int)
  /-- A number with a fraction or exponent, minus zero, or an integer too large for a word. -/
  | fractional
  /-- Too large for a floating-point word. -/
  | huge
  deriving DecidableEq, Repr

/-- A numeral's spelling, part by part; `exponent` carries its sign (`true` for minus). -/
structure Numeral where
  negative : Bool
  whole : List Char
  fraction : List Char
  exponent : Option (Bool × List Char)
  deriving DecidableEq, Repr

namespace Numeral

/-- The value of a decimal digit. -/
def digitValue (c : Char) : Nat := c.toNat - 48

/-- The digits that stand first, and what follows them. -/
def digits (cs : List Char) : List Char × List Char :=
  (cs.takeWhile Char.isDigit, cs.dropWhile Char.isDigit)

/-- The whole part: one zero, or digits that do not start with zero. -/
def scanWhole (cs : List Char) : Except Fault (List Char × List Char) :=
  match digits cs with
  | ([], rest) => .error (Fault.malformed.unless rest)
  | ('0' :: _ :: _, _) => .error .malformed
  | (whole, rest) => .ok (whole, rest)

/-- The fraction, if a point follows: at least one digit. -/
def scanFraction : List Char → Except Fault (List Char × List Char)
  | '.' :: cs =>
    match digits cs with
    | ([], rest) => .error (Fault.malformed.unless rest)
    | (fraction, rest) => .ok (fraction, rest)
  | cs => .ok ([], cs)

/-- The digits of an exponent: at least one. -/
def scanPower (negative : Bool) (cs : List Char) :
    Except Fault (Option (Bool × List Char) × List Char) :=
  match digits cs with
  | ([], rest) => .error (Fault.malformed.unless rest)
  | (power, rest) => .ok (some (negative, power), rest)

/-- The exponent, if its mark follows: a sign may stand before the digits. -/
def scanExponent : List Char → Except Fault (Option (Bool × List Char) × List Char)
  | [] => .ok (none, [])
  | c :: cs =>
    if c = 'e' ∨ c = 'E' then
      match cs with
      | '-' :: cs => scanPower true cs
      | '+' :: cs => scanPower false cs
      | cs => scanPower false cs
    else .ok (none, c :: cs)

/-- The numeral after its sign. -/
def scanUnsigned (negative : Bool) (cs : List Char) : Except Fault (Numeral × List Char) := do
  let (whole, cs) ← scanWhole cs
  let (fraction, cs) ← scanFraction cs
  let (exponent, cs) ← scanExponent cs
  return (⟨negative, whole, fraction, exponent⟩, cs)

/-- The numeral that stands first, and what follows it. -/
def scan : List Char → Except Fault (Numeral × List Char)
  | '-' :: cs => scanUnsigned true cs
  | cs => scanUnsigned false cs

/-! ### What a numeral denotes -/

/-- The significand of digits taken as long as a word holds them, and how many are left over. -/
def significand : Nat → List Char → Nat × Nat
  | acc, [] => (acc, 0)
  | acc, c :: cs =>
    if acc * 10 + digitValue c ≤ Word.unsignedMax then significand (acc * 10 + digitValue c) cs
    else (acc, cs.length + 1)

/-- The value of a run of digits, never more than `bound`. -/
def valueUpTo (bound : Nat) (cs : List Char) : Nat :=
  cs.foldl (fun acc c => min bound (acc * 10 + digitValue c)) 0

/-- The nearest number with 53 significant bits; a tie goes to the even one. -/
def roundToDouble (n : Nat) : Nat :=
  let unit := Nat.pow 2 (n.log2 - 52)
  let low := n / unit
  let twice := 2 * (n % unit)
  if twice < unit ∨ (twice = unit ∧ low % 2 = 0) then low * unit else (low + 1) * unit

/-- The least number that rounds past the largest double. -/
def doubleLimit : Nat := Nat.pow 2 1024 - Nat.pow 2 970

/-- The largest power of ten that a double holds. -/
def powerLimit : Int := 308

/-- Whether a significand times a power of ten is too large for a double. -/
def overflows (significand : Nat) (power : Int) : Bool :=
  significand ≠ 0 && 0 ≤ power &&
    (powerLimit < power ||
      doubleLimit ≤ roundToDouble significand * roundToDouble (Nat.pow 10 power.toNat))

/-- The exponent's value; one that no 32-bit word holds counts as its bound. -/
def power : Option (Bool × List Char) → Int
  | none => 0
  | some (negative, digits) =>
    let size : Int := valueUpTo 2147483648 digits
    if negative then -size else size

/-- The number that a numeral denotes. -/
def number (n : Numeral) : Number :=
  let (whole, dropped) := significand 0 n.whole
  if n.fraction = [] ∧ n.exponent = none ∧ dropped = 0 ∧ ¬(n.negative ∧ whole = 0) ∧
      ¬(n.negative ∧ Word.signedMin.natAbs < whole) then
    .integer (if n.negative then -(whole : Int) else whole)
  else
    let (all, extra) := significand whole n.fraction
    let shift : Int := dropped - ((n.fraction.length - extra : Nat) : Int)
    if overflows all (shift + power n.exponent) then .huge else .fractional

/-! ### A numeral takes at least one character -/

theorem digits_length (cs : List Char) :
    (digits cs).1.length + (digits cs).2.length = cs.length := by
  rw [← List.length_append]
  simp [digits]

theorem scanWhole_shrinks {cs rest : List Char} {whole : List Char}
    (h : scanWhole cs = .ok (whole, rest)) : rest.length < cs.length := by
  have hlen := digits_length cs
  unfold scanWhole at h
  split at h
  · cases h
  · cases h
  · rename_i front back hnil _ hparts
    have hpos : 0 < front.length := List.length_pos_iff.2 hnil
    cases h
    rw [hparts] at hlen
    simp only at hlen
    omega

theorem scanFraction_length {cs rest fraction : List Char}
    (h : scanFraction cs = .ok (fraction, rest)) : rest.length ≤ cs.length := by
  unfold scanFraction at h
  split at h
  · rename_i cs
    have hlen := digits_length cs
    split at h <;> simp_all
    omega
  · simp_all

theorem scanPower_length {cs rest : List Char} {b : Bool} {e : Option (Bool × List Char)}
    (h : scanPower b cs = .ok (e, rest)) : rest.length ≤ cs.length := by
  have hlen := digits_length cs
  unfold scanPower at h
  split at h <;> simp_all
  omega

theorem scanExponent_length {cs rest : List Char} {e : Option (Bool × List Char)}
    (h : scanExponent cs = .ok (e, rest)) : rest.length ≤ cs.length := by
  unfold scanExponent at h
  split at h
  · simp_all
  · split at h
    · split at h
      all_goals
        have := scanPower_length h
        simp at this ⊢
        omega
    · simp at h
      simp [← h.2]

theorem scanUnsigned_shrinks {cs rest : List Char} {b : Bool} {n : Numeral}
    (h : scanUnsigned b cs = .ok (n, rest)) : rest.length < cs.length := by
  obtain ⟨⟨_, _⟩, hwhole, h⟩ := ok_of_bind h
  obtain ⟨⟨_, _⟩, hfraction, h⟩ := ok_of_bind h
  obtain ⟨⟨_, _⟩, hexponent, h⟩ := ok_of_bind h
  have h₁ := scanWhole_shrinks hwhole
  have h₂ := scanFraction_length hfraction
  have h₃ := scanExponent_length hexponent
  cases h
  simp only at *
  omega

theorem scan_shrinks {cs rest : List Char} {n : Numeral} (h : scan cs = .ok (n, rest)) :
    rest.length < cs.length := by
  unfold scan at h
  split at h
  · have := scanUnsigned_shrinks h
    simp at this ⊢
    omega
  · exact scanUnsigned_shrinks h

end Numeral

end BroadcastChat.Json
