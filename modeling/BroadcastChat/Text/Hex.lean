/-
# Hexadecimal digits

Key definitions: `Hex.lower`, `Hex.upper`, `Hex.value?`, `Hex.numberIn?`.
Key theorem: `Hex.value?_upper`.
-/

namespace BroadcastChat.Text.Hex

/-- The digit of a number below sixteen, in lower case. -/
def lower (n : Nat) : Char :=
  if n < 10 then Char.ofNat (48 + n) else Char.ofNat (87 + n)

/-- The digit of a number below sixteen, in upper case. -/
def upper (n : Nat) : Char :=
  if n < 10 then Char.ofNat (48 + n) else Char.ofNat (55 + n)

/-- The value of a digit of either case. -/
def value? (c : Char) : Option Nat :=
  if '0' ≤ c ∧ c ≤ '9' then some (c.toNat - 48)
  else if 'a' ≤ c ∧ c ≤ 'f' then some (c.toNat - 87)
  else if 'A' ≤ c ∧ c ≤ 'F' then some (c.toNat - 55)
  else none

theorem value?_upper {n : Nat} (h : n < 16) : value? (upper n) = some n := by
  have : ∀ m : Fin 16, value? (upper m) = some m.val := by decide
  exact this ⟨n, h⟩

theorem upper_lt {n : Nat} (h : n < 16) : (upper n).toNat < 128 := by
  have : ∀ m : Fin 16, (upper m).toNat < 128 := by decide
  exact this ⟨n, h⟩

/-- The number that digits of a radix up to sixteen denote, if they all are digits of it. -/
def numberIn? (radix : Nat) (cs : List Char) : Option Nat :=
  cs.foldlM (fun acc c => ((value? c).filter (· < radix)).map fun d => acc * radix + d) 0

/-- The number that hexadecimal digits denote, if they all are digits. -/
def number? (cs : List Char) : Option Nat := numberIn? 16 cs

end BroadcastChat.Text.Hex
