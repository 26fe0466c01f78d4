/-
# What can go wrong for a client

Key definitions: `Client.Error`, `Client.Error.message`.
-/
import BroadcastChat.Name

namespace BroadcastChat.Client

/-- Why a client's operation failed. The reasons are those of the network, the prompt or the
reader. -/
inductive Error where
  | connect (url reason : String)
  | invalidName (limit : LimitError)
  | webSocket (reason : String)
  | http (reason : String)
  /-- The hub knows no live endpoint of the sender. -/
  | notSubscribed (sender : String)
  | rejected (status : Nat) (error : String)
  | invalidUrl (reason : String)
  | json (reason : String)
  | prompt (reason : String)
  | promptTask (reason : String)
  deriving DecidableEq, Repr

/-- The wording of a failure. -/
def Error.message : Error → String
  | .connect url reason => s!"failed to connect to {url}: {reason}"
  | .invalidName limit => s!"invalid name: {limit.message}"
  | .webSocket reason => s!"websocket error: {reason}"
  | .http reason => s!"http error: {reason}"
  | .notSubscribed sender =>
    s!"'{sender}' is not subscribed; connect a listener under this name first"
  | .rejected status error => s!"server rejected the request ({status}): {error}"
  | .invalidUrl reason => s!"invalid url: {reason}"
  | .json reason => s!"json error: {reason}"
  | .prompt reason => s!"prompt error: {reason}"
  | .promptTask reason => s!"prompt task failed: {reason}"

end BroadcastChat.Client
