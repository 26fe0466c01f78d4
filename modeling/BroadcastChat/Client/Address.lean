/-
# Where a server is reached

Key definitions: `Client.Address`, `Client.Address.httpUrl`,
`Client.Address.socketUrl`, `Client.Address.url`, `Client.Address.listenUrl`.
-/
import BroadcastChat.Client.Error
import BroadcastChat.Url

namespace BroadcastChat.Client

/-- A server's host and port. -/
structure Address where
  host : String
  port : UInt16
  deriving DecidableEq, Repr

namespace Address

/-- Host, port and path of an address. -/
def behindScheme (address : Address) (path : String) : String :=
  s!"//{address.host}:{address.port}{path}"

/-- The address of something asked for over HTTP. -/
def httpUrl (address : Address) (path : String) : String :=
  "http:" ++ address.behindScheme path

/-- The address of a web socket. -/
def socketUrl (address : Address) (path : String) : String :=
  "ws:" ++ address.behindScheme path

/-- The URL of a path at an address. -/
def url (address : Address) (path : String) : Except Url.Error Url :=
  Url.parse (address.behindScheme path).toList

/-- Where to listen under a name. -/
def listen (address : Address) (name : String) : Except Error Url :=
  match address.url "/ws/listen" with
  | .error reason => .error (.invalidUrl reason.message)
  | .ok url => .ok (url.appendPair "name" name)

/-- The address at which to listen under a name, in the normal form of URLs. -/
def listenUrl (address : Address) (name : String) : Except Error String :=
  (address.listen name).map Url.text

end Address

end BroadcastChat.Client
