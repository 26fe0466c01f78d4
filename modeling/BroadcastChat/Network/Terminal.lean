/-
# Clients at terminals on a network

A client at a terminal gets from the network what it wishes for. Its user's
text comes in pieces, of which it takes whole lines, in which backspaces take
back what stands before them; at the end of the input an unfinished line counts
as one.

Key definitions: `Terminal`, `Terminal.start`, `Terminal.type`,
`Terminal.endInput`, `Terminal.refresh`.
-/
import BroadcastChat.Client.Typing
import BroadcastChat.Network

namespace BroadcastChat

open Client (Console Error)

/-- A client at a terminal: where it connects to, its connection, if it has one, and the line that
is not finished. -/
structure Terminal where
  address : Client.Address
  console : Console
  peer : Option PeerId
  typed : List Char
  deriving DecidableEq

namespace Terminal

/-- Takes what has come in over the network. -/
def refresh (terminal : Terminal) (network : Network) : Terminal × Network :=
  match terminal.peer with
  | none => (terminal, network)
  | some id =>
    let network := network.look id
    let count := ((network.peer? id).map fun peer => peer.unread.length).getD 0
    let (frames, network) := network.takeDeliveries id count
    let console := frames.foldl Console.onDelivery terminal.console
    let console :=
      match network.failure? id with
      | some error => console.onServerEnd (some error)
      | none => if network.hasEnded id then console.onServerEnd none else console
    ({ terminal with console }, network)

/-- Says a line under a name: in a chat over the socket, for a listener over HTTP. -/
def say (time : Timestamp) (terminal : Terminal) (network : Network) (name : Name) (line : String) :
    Terminal × Network :=
  match terminal.console.speaks, terminal.peer with
  | true, some id => (terminal, (network.say time id line).2)
  | _, _ =>
    let (result, network) := network.submit time terminal.address ⟨name.text, line⟩
    ({ terminal with console := terminal.console.onSaid result }, network)

/-- Fulfils a wish. -/
def fulfil (time : Timestamp) (terminal : Terminal) (network : Network) :
    Console.Wish → Terminal × Network
  | .nothing => (terminal, network)
  | .join name =>
    match network.join time terminal.address terminal.console.speaks name with
    | (.ok id, network) =>
      ({ terminal with console := terminal.console.onJoined none, peer := some id }, network)
    | (.error error, network) =>
      ({ terminal with console := terminal.console.onJoined (some error) }, network)
  | .say line =>
    match terminal.console.phase with
    | .talking name => terminal.say time network name line
    | _ => (terminal, network)
  | .leave =>
    match terminal.peer with
    | some id => (terminal, (network.leave time id (.frame .close)).2)
    | none => (terminal, network)

/-- Handles one step of the console. -/
def step (time : Timestamp) (terminal : Terminal) (network : Network)
    (move : Console → Console × Console.Wish) : Terminal × Network :=
  let (console, wish) := move terminal.console
  let (terminal, network) := { terminal with console : Terminal }.fulfil time network wish
  terminal.refresh network

/-- Shows who is connected. -/
def showNames (time : Timestamp) (network : Network) (address : Client.Address) :
    Terminal × Network :=
  let console : Console := ⟨false, false, .asking, []⟩
  let (result, network) := network.names time address
  let console := match result with
    | .ok names => (names.foldl Console.print console).finish none
    | .error error => console.finish (some error)
  (⟨address, console, none, []⟩, network)

/-- Starts a client. -/
def start (time : Timestamp) (network : Network) (options : Client.Options) :
    Client.Task → Terminal × Network
  | .names => showNames time network options.address
  | .chat name => open_ true name
  | .listen name => open_ false name
where
  open_ (speaks : Bool) (name : Option String) : Terminal × Network :=
    let (console, wish) := Console.start speaks options.showClock name
    let terminal : Terminal := ⟨options.address, console, none, []⟩
    let (terminal, network) := terminal.fulfil time network wish
    terminal.refresh network

/-- The user types a line. -/
def enter (time : Timestamp) (terminal : Terminal) (network : Network) (line : List Char) :
    Terminal × Network :=
  terminal.step time network fun console =>
    match Client.edited? line with
    | some line => console.onLine (String.ofList line)
    | none => console.onLostLine

/-- A finished line without the return that may stand at its end. -/
def lineOf (backwards : List Char) : List Char :=
  match backwards with
  | '\r' :: rest => rest.reverse
  | _ => backwards.reverse

/-- The user types some text; `backwards` is the line that is not finished, last character
first. -/
def typeChars (time : Timestamp) (terminal : Terminal) (network : Network)
    (backwards : List Char) : List Char → Terminal × Network
  | [] => ({ terminal with typed := backwards.reverse }, network)
  | c :: rest =>
    if c = '\n' then
      let (terminal, network) := terminal.enter time network (lineOf backwards)
      typeChars time terminal network [] rest
    else typeChars time terminal network (c :: backwards) rest

/-- The user types some text. -/
def type (time : Timestamp) (terminal : Terminal) (network : Network) (text : String) :
    Terminal × Network :=
  terminal.typeChars time network terminal.typed.reverse text.toList

/-- The user's input ends. -/
def endInput (time : Timestamp) (terminal : Terminal) (network : Network) : Terminal × Network :=
  let (terminal, network) :=
    if terminal.typed = [] then (terminal, network)
    else { terminal with typed := [] }.enter time network terminal.typed
  terminal.step time network Console.onInputEnd

/-- What the client has printed. -/
def output (terminal : Terminal) : String :=
  String.join (terminal.console.printed.map fun line => line ++ "\n")

end Terminal

end BroadcastChat
