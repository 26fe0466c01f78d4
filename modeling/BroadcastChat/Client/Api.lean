/-
# Asking over HTTP

A client asks for the names that are connected, and submits single messages.
What it makes of a response hangs on the status first: a success must hold what
was asked for; a submit that is not found means that nobody listens under its
sender's name; and any other status is a rejection, worded by the complaint in
the response or else by the status's standard phrase.

Key definitions: `Client.namesRequest`, `Client.submitRequest`,
`Client.socketRequest`, `Client.namesOf`, `Client.receiptOf`.
-/
import BroadcastChat.Client.Error
import BroadcastChat.Http.Request
import BroadcastChat.Http.Status
import BroadcastChat.Json.Bytes
import BroadcastChat.Wire

namespace BroadcastChat.Client

open Http (Request)
open Text (Utf8.encode)

/-! ### Requests -/

/-- Asks for the names that are connected. -/
def namesRequest : Request where
  method := "GET"
  target := ⟨"/api/names", ""⟩
  headers := []
  body := []
  upgradable := false

/-- Submits a message. -/
def submitRequest (frame : ChatFrame) : Request where
  method := "POST"
  target := ⟨"/api/messages", ""⟩
  headers := [("content-type", "application/json")]
  body := Utf8.encode frame.json
  upgradable := false

/-- Asks for a web socket. -/
def socketRequest (target : Http.Target) : Request where
  method := "GET"
  target := target
  headers := [("connection", "Upgrade"), ("upgrade", "websocket"), ("sec-websocket-version", "13"),
    ("sec-websocket-key", "dGhlIHNhbXBsZSBub25jZQ==")]
  body := []
  upgradable := true

/-! ### Responses -/

/-- The content of a response: what follows its head, if its status allows any. -/
def contentOf (status : Nat) (body : List UInt8) : List UInt8 :=
  if Http.hasNoContent status then [] else body

/-- The wording of a failure to understand a response. -/
def notUnderstood : Error := .http "error decoding response body"

/-- The wording of a status that says that something went wrong. -/
def statusReason (status : Nat) : String :=
  let kind := if status < 500 then "client" else "server"
  s!"HTTP status {kind} error ({status})"

/-- The names in a response. -/
def namesOf (status : Nat) (body : List UInt8) : Except Error (List String) :=
  if Http.isError status then .error (.http (statusReason status))
  else
    match Roster.reader.readBytes (contentOf status body) with
    | .ok roster => .ok roster.names
    | .error _ => .error notUnderstood

/-- The error that a rejection tells of. -/
def rejectionText (status : Nat) (body : List UInt8) : String :=
  match Complaint.reader.readBytes (contentOf status body) with
  | .ok complaint => complaint.error
  | .error _ => (Http.reasonPhrase? status).getD "unknown"

/-- How many clients a message was queued for, by the response to its submit. -/
def receiptOf (sender : String) (status : Nat) (body : List UInt8) : Except Error Nat :=
  if Http.isSuccess status then
    match Receipt.reader.readBytes (contentOf status body) with
    | .ok receipt => .ok receipt.delivered
    | .error _ => .error notUnderstood
  else if status = 404 then .error (.notSubscribed sender)
  else .error (.rejected status (rejectionText status body))

end BroadcastChat.Client
