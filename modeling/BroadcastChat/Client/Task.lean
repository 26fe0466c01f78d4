/-
# What a client is asked to do

Key definitions: `Client.Task`, `Client.Options`.
-/
import BroadcastChat.Client.Address

namespace BroadcastChat.Client

/-- Chat, listen and submit, or show who is connected. A name that is not given is asked for. -/
inductive Task where
  | chat (name : Option String)
  | listen (name : Option String)
  | names
  deriving DecidableEq, Repr

/-- Where a client connects to and what it shows. -/
structure Options where
  address : Address := ⟨"127.0.0.1", 15001⟩
  showClock : Bool := false
  deriving DecidableEq, Repr

end BroadcastChat.Client
