/-
# Folding the characters of a domain name

In a domain name, characters that look or mean the same are one: capital
letters stand for small ones, wide letters for narrow ones, ligatures for
letters in a row. Some characters are left out, and some refused.

Key definitions: `Fold`, `Folding.fold`, `Folding.folded?`, `Folding.isPlain`.
-/
import BroadcastChat.Text.Table
import BroadcastChat.Url.Domain.FoldingTable

namespace BroadcastChat.Url.Domain

open Text

/-- What becomes of a character of a domain name. -/
inductive Fold where
  | keep
  | drop
  | refuse
  | replace (by_ : List Char)
  deriving DecidableEq, Repr

namespace Folding

/-- Characters in a row that stand for one other each. -/
structure Run where
  start : Nat
  count : Nat
  kind : Nat
  target : Nat
  deriving DecidableEq, Repr

namespace Run

/-- The distance between the characters of a run. -/
def stride (run : Run) : Nat := if run.kind = 1 then 2 else 1

/-- The distance between what they stand for. -/
def pace (run : Run) : Nat := if run.kind = 2 then 0 else run.stride

/-- The place of a character in a run. -/
def place? (run : Run) (c : Char) : Option Nat :=
  let distance := c.toNat - run.start
  if run.start ≤ c.toNat ∧ distance % run.stride = 0 ∧ distance / run.stride < run.count then
    some (distance / run.stride)
  else none

/-- What a character in a run stands for. -/
def image? (run : Run) (c : Char) : Option Char :=
  (run.place? c).map fun place => Char.ofNat (run.target + place * run.pace)

end Run

/-- The runs of rows, given the start of the one before. -/
def runsAfter (before : Nat) : List (List Nat) → List Run
  | [gap, count, kind, target] :: rest =>
    ⟨before + gap, count, kind, target⟩ :: runsAfter (before + gap) rest
  | _ => []

/-- The other characters of rows with what they stand for, given the code point of the one
before. -/
def othersAfter (before : Nat) : List (List Nat) → List (Nat × List Char)
  | (gap :: images) :: rest =>
    (before + gap, images.map Char.ofNat) :: othersAfter (before + gap) rest
  | _ => []

/-- The ranges of characters that no name may hold. -/
def refused : List Table.Span := Table.spans FoldingTable.refused

/-- The ranges of characters that are left out. -/
def dropped : List Table.Span := Table.spans FoldingTable.dropped

/-- The runs of characters that stand for one other each. -/
def runs : List Run := runsAfter 0 (Table.rows FoldingTable.runs)

/-- The other characters that stand for something else. -/
def others : List (Nat × List Char) := othersAfter 0 (Table.rows FoldingTable.others)

/-- What becomes of a character. -/
def fold (c : Char) : Fold :=
  if Table.covers refused c then .refuse
  else if Table.covers dropped c then .drop
  else
    match runs.findSome? fun run => run.image? c, others.lookup c.toNat with
    | some image, _ => .replace [image]
    | none, some images => .replace images
    | none, none => .keep

/-- Whether a character stands for itself. -/
def isPlain (c : Char) : Bool := fold c == .keep

/-- A name with its characters folded, if it may hold them. -/
def folded? : List Char → Option (List Char)
  | [] => some []
  | c :: rest =>
    match fold c with
    | .keep => (folded? rest).map (c :: ·)
    | .drop => folded? rest
    | .refuse => none
    | .replace images => (folded? rest).map (images ++ ·)

end Folding

end BroadcastChat.Url.Domain
