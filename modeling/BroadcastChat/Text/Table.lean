/-
# Tables of characters

A table of a character property is written as rows of hexadecimal numbers: the
numbers of a row stand between commas, the rows between blanks. Rows about
ranges of characters start with the distance from the end of the range before
and the length less one.

Key definitions: `Table.rows`, `Table.spans`, `Table.spanOf?`.
-/
import BroadcastChat.Text.Hex

namespace BroadcastChat.Text.Table

/-- How far the reading of a table has come: the rows, the numbers of the row, and the number, all
last one first. -/
structure Progress where
  rows : List (List Nat)
  row : List Nat
  number : Option Nat

namespace Progress

/-- Ends a number. -/
def endNumber (progress : Progress) : Progress :=
  match progress.number with
  | none => progress
  | some n => { progress with row := n :: progress.row, number := none }

/-- Ends a row. -/
def endRow (progress : Progress) : Progress :=
  let progress := progress.endNumber
  if progress.row = [] then progress
  else { progress with rows := progress.row.reverse :: progress.rows, row := [] }

/-- One more character. -/
def feed (progress : Progress) (c : Char) : Progress :=
  if c = ',' then progress.endNumber
  else
    match Hex.value? c with
    | some digit => { progress with number := some ((progress.number.getD 0) * 16 + digit) }
    | none => progress.endRow

end Progress

/-- The rows of a table. -/
def rows (text : String) : List (List Nat) :=
  (text.toList.foldl Progress.feed ⟨[], [], none⟩).endRow.rows.reverse

/-- A range of characters and what is said about it. -/
structure Span where
  first : Nat
  last : Nat
  value : Nat
  deriving DecidableEq, Repr

/-- The ranges of rows, given the end of the range before. -/
def spansAfter (before : Nat) : List (List Nat) → List Span
  | (gap :: length :: value) :: rest =>
    let first := before + gap
    ⟨first, first + length, value.headD 1⟩ :: spansAfter (first + length) rest
  | _ => []

/-- The ranges of a table. -/
def spans (text : String) : List Span := spansAfter 0 (rows text)

/-- The range that a character is in. -/
def spanOf? (spans : List Span) (c : Char) : Option Span :=
  spans.find? fun span => span.first ≤ c.toNat && c.toNat ≤ span.last

/-- Whether a character is in one of the ranges. -/
def covers (spans : List Span) (c : Char) : Bool := (spanOf? spans c).isSome

/-- What is said about a character; zero if nothing is. -/
def valueOf (spans : List Span) (c : Char) : Nat := ((spanOf? spans c).map Span.value).getD 0

end BroadcastChat.Text.Table
