/-
# Decimal numbers as users write them

Key definition: `Text.natural?`.
-/
import BroadcastChat.Text.Hex

namespace BroadcastChat.Text

/-- A number without a sign that is at most `bound`; a plus sign may stand before it. -/
def natural? (bound : Nat) (text : String) : Option Nat :=
  let digits := match text.toList with
    | '+' :: digits => digits
    | digits => digits
  if digits = [] then none else (Hex.numberIn? 10 digits).filter (· ≤ bound)

end BroadcastChat.Text
