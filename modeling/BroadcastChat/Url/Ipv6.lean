/-
# IPv6 addresses

Eight pieces of 16 bits in hexadecimal between colons. A double colon, once,
stands for one or more pieces that are zero, and the last two pieces may be
given as four bytes in decimal between points. An address is written with a
double colon for the first of its longest runs of at least two zeros.

Key definitions: `Ipv6.parse`, `Ipv6.text`.
-/
import BroadcastChat.Text.Hex
import BroadcastChat.Text.Pieces
import BroadcastChat.Url.Error

namespace BroadcastChat.Url

/-- An IPv6 address: eight pieces. -/
structure Ipv6 where
  pieces : List Nat
  deriving DecidableEq, Repr

namespace Ipv6

open Text

/-! ### Reading -/

/-- A piece: one to four hexadecimal digits. -/
def piece? (cs : List Char) : Option Nat :=
  if cs ≠ [] ∧ cs.length ≤ 4 then Hex.number? cs else none

/-- A byte in decimal, without leading zeros. -/
def byte? (cs : List Char) : Option Nat :=
  if cs ≠ [] ∧ (cs.head? = some '0' → cs = ['0']) then
    (Hex.numberIn? 10 cs).filter (· ≤ 255)
  else none

/-- Two pieces given as four bytes. -/
def bytes? (cs : List Char) : Option (List Nat) :=
  match (Text.pieces (· == '.') cs).mapM byte? with
  | some [a, b, c, d] => some [a * 256 + b, c * 256 + d]
  | _ => none

/-- Pieces between colons; the last one may be four bytes. -/
def run? : List (List Char) → Option (List Nat)
  | [] => some []
  | [last] => if last.contains '.' then bytes? last else (piece? last).map fun n => [n]
  | cs :: rest => do
    let n ← piece? cs
    let ns ← run? rest
    return n :: ns

/-- The pieces of one side of a double colon; the side may be empty. -/
def side? (cs : List Char) : Option (List Nat) :=
  if cs = [] then some [] else run? (Text.pieces (· == ':') cs)

/-- What stands before and behind the first double colon, if there is one. -/
def splitAtDouble : List Char → Option (List Char × List Char)
  | ':' :: ':' :: rest => some ([], rest)
  | c :: rest => (splitAtDouble rest).map fun (before, behind) => (c :: before, behind)
  | [] => none

/-- The eight pieces of an address. -/
def pieces? (cs : List Char) : Option (List Nat) :=
  match splitAtDouble cs with
  | none => (run? (Text.pieces (· == ':') cs)).filter (·.length = 8)
  | some (before, behind) => do
    guard (!before.contains '.')
    let front ← side? before
    let back ← side? behind
    guard (front.length + back.length ≤ 7)
    return front ++ List.replicate (8 - front.length - back.length) 0 ++ back

/-- Reads an address. -/
def parse (cs : List Char) : Except Error Ipv6 :=
  match pieces? cs with
  | some pieces => .ok ⟨pieces⟩
  | none => .error .ipv6

/-! ### Writing -/

/-- The zeros that a list starts with. -/
def zeros (ns : List Nat) : Nat := (ns.takeWhile (· = 0)).length

/-- Where the first of the longest runs of zeros starts, and its length. -/
def longestRun (ns : List Nat) : Nat × Nat :=
  (List.range ns.length).foldl
    (fun best start =>
      let length := zeros (ns.drop start)
      if best.2 < length then (start, length) else best) (0, 0)

/-- A piece in hexadecimal, without leading zeros. -/
def pieceText (n : Nat) : String := String.ofList (Nat.toDigits 16 n)

/-- Pieces between colons. -/
def runText (ns : List Nat) : String := ":".intercalate (ns.map pieceText)

/-- How an address is written. -/
def text (address : Ipv6) : String :=
  let (start, length) := longestRun address.pieces
  if length ≤ 1 then runText address.pieces
  else
    runText (address.pieces.take start) ++ "::" ++ runText (address.pieces.drop (start + length))

end Ipv6

end BroadcastChat.Url
