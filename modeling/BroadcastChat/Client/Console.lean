/-
# A client at a terminal

The user types lines and the client prints some. First it asks for a name,
unless one is given, until it gets a valid one; then every line is something to
say, until the line that asks to leave or the end of the input. Deliveries are
printed as they come, and when they end or their connection fails the client is
done. A submit that is refused because nobody listens under the name is only
printed; any other failure ends the client.

What needs the network is only asked for here, as a `Wish`.

Key definitions: `Console`, `Console.start`, `Console.onLine`,
`Console.onInputEnd`, `Console.onDelivery`, `Console.onServerEnd`.
-/
import BroadcastChat.Client.Line
import BroadcastChat.Client.Task
import BroadcastChat.Frame

namespace BroadcastChat.Client

/-- Where a client at a terminal stands. -/
inductive Console.Phase where
  /-- It waits for a name. -/
  | asking
  /-- It is about to connect. -/
  | joining (name : Name)
  | talking (name : Name)
  | done (error : Option Error)
  deriving DecidableEq

/-- A client at a terminal: `speaks` tells a chat from a listener, `printed` are the lines so
far. -/
structure Console where
  speaks : Bool
  showClock : Bool
  phase : Console.Phase
  printed : List String
  deriving DecidableEq

/-- What a client at a terminal wants from the network. -/
inductive Console.Wish where
  | nothing
  | join (name : Name)
  | say (line : String)
  | leave
  deriving DecidableEq

namespace Console

/-- Prints a line. -/
def print (console : Console) (line : String) : Console :=
  { console with printed := console.printed ++ [line] }

/-- The client is done. -/
def finish (console : Console) (error : Option Error) : Console :=
  { console with phase := .done error }

/-- A client that has just been started, with a name given or not. -/
def start (speaks showClock : Bool) (name : Option String) : Console × Wish :=
  let console : Console := ⟨speaks, showClock, .asking, ["type :q to quit"]⟩
  match name.map Name.ofString with
  | none => (console, .nothing)
  | some (.ok name) => ({ console with phase := .joining name }, .join name)
  | some (.error limit) => (console.finish (some (.invalidName limit)), .nothing)

/-- The connection has come about, or not. -/
def onJoined (console : Console) (error : Option Error) : Console :=
  match console.phase, error with
  | .joining name, none => { console with phase := .talking name }
  | .joining _, some error => console.finish (some error)
  | _, _ => console

/-- Leaves. -/
def leave (console : Console) : Console × Wish := ((console.print "closing").finish none, .leave)

/-- The user has typed a line. -/
def onLine (console : Console) (line : String) : Console × Wish :=
  match console.phase with
  | .asking =>
    match Name.ofString (Text.trim line) with
    | .ok name => ({ console with phase := .joining name }, .join name)
    | .error limit => (console.print limit.message, .nothing)
  | .talking _ => if isQuit line then console.leave else (console, .say line)
  | _ => (console, .nothing)

/-- The user's input has ended. -/
def onInputEnd (console : Console) : Console × Wish :=
  match console.phase with
  | .asking => (console.finish (some (.prompt "EOF")), .nothing)
  | .talking _ => console.leave
  | _ => (console, .nothing)

/-- A line that the user has typed is lost. Nothing more is read then, as at the end of the input,
but who asked for a name fails. -/
def onLostLine (console : Console) : Console × Wish :=
  match console.phase with
  | .asking => (console.finish (some (.promptTask "line lost")), .nothing)
  | _ => console.onInputEnd

/-- Something said over the network has been taken, or not. -/
def onSaid (console : Console) : Except Error Nat → Console
  | .ok _ => console
  | .error (.notSubscribed sender) => console.print (Error.notSubscribed sender).message
  | .error error => console.finish (some error)

/-- A delivery has come in. -/
def onDelivery (console : Console) (frame : DeliveryFrame) : Console :=
  match console.phase with
  | .talking _ => console.print (deliveryLine frame console.showClock)
  | _ => console

/-- The deliveries have ended: the server has closed the connection, or the connection has failed.
-/
def onServerEnd (console : Console) (failure : Option Error) : Console :=
  match console.phase, failure with
  | .talking _, none => (console.print "Server disconnected").finish none
  | .talking _, some error =>
    (console.print s!"Server disconnected badly: {error.message}").finish none
  | _, _ => console

/-- Whether the client is done. -/
def isDone (console : Console) : Bool :=
  match console.phase with
  | .done _ => true
  | _ => false

/-- The error that the client ended with, if it did. -/
def error? (console : Console) : Option Error :=
  match console.phase with
  | .done error => error
  | _ => none

/-! ### What is said on the way -/

/-- The lines that are said: those before the first one that asks to leave. -/
def spoken (lines : List String) : List String := lines.takeWhile fun line => !isQuit line

/-- The chat frame that greets the hub. -/
def greeting (name : Name) : ChatFrame := ⟨name.text, ""⟩

/-- The frames that a chatting client sends for the lines that its user types: a greeting, what is
said, and a close frame. -/
def chatFrames (name : Name) (lines : List String) : List Frame :=
  (greeting name :: (spoken lines).map fun line => ⟨name.text, line⟩).map
    (fun frame => .text frame.json) ++ [.close]

end Console

end BroadcastChat.Client
