/-
# Settings

What the hub and the server around it can be told: how many deliveries a
client may have queued, what a session does with its first message, and where
to listen.

Key definitions: `GreetingPolicy`, `HubSettings`, `ServerSettings`.
-/
import BroadcastChat.Text.Ascii

namespace BroadcastChat

/-- What a session does with its first message, besides taking the sender's name. -/
inductive GreetingPolicy where
  /-- It is broadcast like every other message. -/
  | broadcast
  /-- It only names the client. -/
  | registerOnly
  deriving DecidableEq, Repr

namespace GreetingPolicy

/-- The policy's name on the command line. -/
def text : GreetingPolicy → String
  | .broadcast => "broadcast"
  | .registerOnly => "register-only"

/-- The policies, the default one first. -/
def all : List GreetingPolicy := [.broadcast, .registerOnly]

/-- The policy that holds when none is chosen. -/
def default : GreetingPolicy := .broadcast

/-- The policy of a name; `ignoreCase` lets ASCII letters differ in case. -/
def ofText? (text : String) (ignoreCase : Bool) : Option GreetingPolicy :=
  all.find? fun policy =>
    if ignoreCase then Text.sameWord policy.text text else policy.text == text

/-- The complaint about a text that names no policy. -/
def complaint (text : String) : String := s!"invalid variant: {text}"

end GreetingPolicy

/-- How the hub works. -/
structure HubSettings where
  capacity : Nat := 64
  policy : GreetingPolicy := .default
  deriving DecidableEq, Repr

/-- How the server around the hub works. -/
structure ServerSettings where
  host : String := "127.0.0.1"
  port : UInt16 := 15001
  hub : HubSettings := {}
  deriving DecidableEq, Repr

namespace ServerSettings

/-- The address to listen on. -/
def address (settings : ServerSettings) : String := s!"{settings.host}:{settings.port}"

end ServerSettings

/-- Why a server stops working; the reason is that of the network. -/
inductive ServerError where
  | bind (address reason : String)
  | serve (reason : String)
  deriving DecidableEq, Repr

/-- The wording of a server's failure. -/
def ServerError.message : ServerError → String
  | .bind address reason => s!"failed to bind {address}: {reason}"
  | .serve reason => s!"server error: {reason}"

end BroadcastChat
