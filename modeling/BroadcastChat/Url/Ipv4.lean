/-
# IPv4 addresses

An address has one to four parts between points, and one point may stand at
its end. A part is a number in decimal, octal behind `0`, or hexadecimal
behind `0x`. All parts but the last are bytes, and the last one fills the
bytes that are left.

Key definitions: `Ipv4.endsInNumber`, `Ipv4.parse`, `Ipv4.text`.
-/
import BroadcastChat.Text.Hex
import BroadcastChat.Text.Pieces
import BroadcastChat.Url.Error

namespace BroadcastChat.Url

/-- An IPv4 address. -/
structure Ipv4 where
  word : Nat
  deriving DecidableEq, Repr

namespace Ipv4

open Text

/-- The number that a part denotes; a radix mark alone denotes zero. -/
def number? : List Char → Option Nat
  | [] => none
  | '0' :: 'x' :: cs => Hex.numberIn? 16 cs
  | '0' :: 'X' :: cs => Hex.numberIn? 16 cs
  | '0' :: c :: cs => Hex.numberIn? 8 (c :: cs)
  | cs => Hex.numberIn? 10 cs

/-- The parts between points, without an empty one at the end. -/
def parts (cs : List Char) : List (List Char) :=
  let all := pieces (· == '.') cs
  if 1 < all.length ∧ all.getLast? = some [] then all.dropLast else all

/-- Whether a host is meant to be an address: its last part is a number, possibly one with digits
that its radix does not have. -/
def endsInNumber (cs : List Char) : Bool :=
  match (parts cs).getLast? with
  | none => false
  | some part => (part ≠ [] && part.all Char.isDigit) || (number? part).isSome

/-- The address of numbers: bytes, and a last number for the bytes that are left. -/
def ofNumbers? (front : List Nat) (last : Nat) : Option Ipv4 :=
  let rest := Nat.pow 256 (4 - front.length)
  if front.length ≤ 3 ∧ front.all (· ≤ 255) ∧ last < rest then
    some ⟨front.foldl (fun acc n => acc * 256 + n) 0 * rest + last⟩
  else none

/-- Reads an address. -/
def parse (cs : List Char) : Except Error Ipv4 :=
  match ((parts cs).mapM number?).bind fun numbers =>
      numbers.getLast?.bind fun last => ofNumbers? numbers.dropLast last with
  | some address => .ok address
  | none => .error .ipv4

/-- The four bytes in decimal between points. -/
def text (address : Ipv4) : String :=
  let w := address.word
  s!"{w / 16777216 % 256}.{w / 65536 % 256}.{w / 256 % 256}.{w % 256}"

end Ipv4

end BroadcastChat.Url
