/-
# Frames

What two peers exchange over a web socket, and what reading one gives. A frame
that is too large breaks the connection it comes in over.

Key definitions: `Frame`, `Frame.fault?`, `Incoming`, `Incoming.ofFrame`.
-/

namespace BroadcastChat

/-- A frame of a web socket. -/
inductive Frame where
  | text (text : String)
  | binary (bytes : List UInt8)
  | ping (bytes : List UInt8)
  | pong (bytes : List UInt8)
  | close
  deriving DecidableEq, Repr

/-- What reading a web socket gives: a frame, or the end of the connection. -/
inductive Incoming where
  | frame (frame : Frame)
  /-- The peer went away without a close frame. -/
  | lost
  /-- The peer did what no peer may do. -/
  | violated (reason : String)
  deriving DecidableEq, Repr

/-! ### Frames that are too large -/

namespace Frame

/-- The most bytes in a frame of the peer's own. -/
def limit : Nat := 16777216

/-- The most bytes in a frame that is part of the protocol. -/
def controlLimit : Nat := 125

/-- What a connection breaks over when this frame comes in. -/
def fault? : Frame → Option String
  | .text content => tooLong content.utf8ByteSize
  | .binary bytes => tooLong bytes.length
  | .ping bytes => tooLongForControl bytes.length
  | .pong bytes => tooLongForControl bytes.length
  | .close => none
where
  tooLong (size : Nat) : Option String :=
    if size ≤ limit then none
    else some s!"Space limit exceeded: Message too long: {size} > {limit}"
  tooLongForControl (size : Nat) : Option String :=
    if size ≤ controlLimit then none
    else
      let rule := s!"payload must be {controlLimit} bytes or less"
      some s!"WebSocket protocol error: Control frame too big ({rule})"

end Frame

namespace Incoming

/-- What reading gives when the peer sent this frame. -/
def ofFrame (frame : Frame) : Incoming :=
  match frame.fault? with
  | none => .frame frame
  | some reason => .violated reason

/-- What reading gives when the peer sent something that is no frame: it has set bits that are
reserved. -/
def noFrame : Incoming := .violated "WebSocket protocol error: Reserved bits are non-zero"

end Incoming

end BroadcastChat
