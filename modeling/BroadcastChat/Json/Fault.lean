/-
# What can be wrong with a JSON text

Reading stops at the first fault met from left to right. A fault says whether
the text is no JSON, ends before it is complete, or is JSON of another shape
than the one wanted; in the last case a broken limit of a name or body is kept.

Key definition: `Fault`.
Key theorem: `ok_of_bind`.
-/
import BroadcastChat.Name

namespace BroadcastChat.Json

/-- Why a JSON text was not read. -/
inductive Fault where
  /-- The text breaks the grammar. -/
  | malformed
  /-- The text ends too early. -/
  | truncated
  /-- The text does not have the shape that is wanted, or breaks a limit. -/
  | unfit (limit : Option LimitError)
  deriving DecidableEq, Repr

/-- The fault of a text that goes on with `rest` where something else must stand. -/
def Fault.unless (fault : Fault) {α : Type} : List α → Fault
  | [] => .truncated
  | _ :: _ => fault

/-- Where two readings in a row succeed, each of them did. -/
theorem ok_of_bind {ε α β : Type} {first : Except ε α} {next : α → Except ε β} {b : β}
    (h : (first >>= next) = .ok b) : ∃ a, first = .ok a ∧ next a = .ok b := by
  cases first with
  | error e => cases h
  | ok a => exact ⟨a, rfl, h⟩

end BroadcastChat.Json
