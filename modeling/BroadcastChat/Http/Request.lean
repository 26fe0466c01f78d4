/-
# Requests and responses

What a client asks of the server over HTTP, and what the server answers. A
response's body is JSON or there is none.

Key definitions: `Request`, `Request.header?`, `Request.opensSocket`, `Response`.
-/
import BroadcastChat.Http.Target
import BroadcastChat.Text.Ascii

namespace BroadcastChat.Http

/-- A request; `upgradable` says that the connection under it can go on as a web socket. -/
structure Request where
  method : String
  target : Target
  headers : List (String × String)
  body : List UInt8
  upgradable : Bool

namespace Request

/-- The value of a header; of several of one name the first one's. -/
def header? (request : Request) (name : String) : Option String :=
  (request.headers.find? fun header => Text.sameWord header.1 name).map Prod.snd

/-- Whether the headers open a web socket of the one version there is. -/
def opensSocket (request : Request) : Bool :=
  let has (name : String) (wanted : String → Bool) : Bool := (request.header? name).any wanted
  has "connection" (fun value => Text.holds "upgrade".toList (Text.lower value).toList) &&
    has "upgrade" (Text.sameWord "websocket") &&
    has "sec-websocket-key" (fun _ => true) &&
    has "sec-websocket-version" (Text.sameWord "13")

end Request

/-- A response: its status, its body if it has one, and the methods it allows instead of the one
that was refused. -/
structure Response where
  status : Nat
  body : Option String := none
  allow : Option String := none
  deriving DecidableEq, Repr

namespace Response

/-- A response that holds JSON. -/
def json (status : Nat) (body : String) : Response := { status, body := some body }

/-- A response that is its status and nothing else. -/
def bare (status : Nat) : Response := { status }

/-- The response without the body that it would have. -/
def withoutContent (response : Response) : Response :=
  { response with body := response.body.map fun _ => "" }

end Response

end BroadcastChat.Http
