/-
# Receiving deliveries

A client reads its web socket for deliveries: text frames that hold one. A
close frame ends them, a lost or broken connection is an error, and anything
else is passed over.

Key definitions: `Client.nextDelivery`, `Client.deliveries`.
Key theorem: `Client.nextDelivery_shrinks`.
-/
import BroadcastChat.Client.Error
import BroadcastChat.Frame
import BroadcastChat.Wire

namespace BroadcastChat.Client

/-- What a client makes of something that came in. -/
inductive Received where
  | delivery (frame : DeliveryFrame)
  /-- Nothing that counts. -/
  | nothing
  /-- There are no deliveries any more. -/
  | ended
  | failed (error : Error)
  deriving DecidableEq

/-- The wording of a connection that was lost. -/
def lostReason : String := "WebSocket protocol error: Connection reset without closing handshake"

/-- What a client makes of something that came in. -/
def received : Incoming → Received
  | .frame (.text text) =>
    match DeliveryFrame.reader.read text with
    | .ok frame => .delivery frame
    | .error _ => .nothing
  | .frame .close => .ended
  | .frame _ => .nothing
  | .lost => .failed (.webSocket lostReason)
  | .violated reason => .failed (.webSocket reason)

/-- The next delivery or error of what has come in, and what comes behind it. There is none if the
deliveries have ended or nothing that counts has come in. -/
def nextDelivery : List Incoming → Option (Except Error DeliveryFrame × List Incoming)
  | [] => none
  | incoming :: rest =>
    match received incoming with
    | .delivery frame => some (.ok frame, rest)
    | .nothing => nextDelivery rest
    | .ended => none
    | .failed error => some (.error error, rest)

theorem nextDelivery_shrinks {all rest : List Incoming} {result : Except Error DeliveryFrame}
    (h : nextDelivery all = some (result, rest)) : rest.length < all.length := by
  induction all with
  | nil => cases h
  | cons incoming all ih =>
    unfold nextDelivery at h
    split at h
    · cases h; simp
    · have := ih h; simp; omega
    · cases h
    · cases h; simp

/-- All deliveries until they end or fail, and the error if they fail. -/
def deliveries (all : List Incoming) : List (Except Error DeliveryFrame) :=
  match h : nextDelivery all with
  | none => []
  | some (.error error, _) => [.error error]
  | some (.ok frame, rest) =>
    have := nextDelivery_shrinks h
    .ok frame :: deliveries rest
termination_by all.length

end BroadcastChat.Client
