/-
# Lines that a user sees and types

Key definitions: `Client.deliveryLine`, `Client.isQuit`.
-/
import BroadcastChat.Text.Blank
import BroadcastChat.Wire

namespace BroadcastChat.Client

/-- The line that shows a delivery: who says what, after the clock if it is wanted and exists. -/
def deliveryLine (frame : DeliveryFrame) (showClock : Bool) : String :=
  let line := s!"{frame.message.sender}: {frame.message.text}"
  match if showClock then frame.timestamp.clock? else none with
  | some clock => s!"[{clock}] {line}"
  | none => line

/-- Whether a typed line asks to leave. -/
def isQuit (line : String) : Bool := Text.trim line == ":q"

end BroadcastChat.Client
