/-
# The program

The command lines of server and client: the first word says which of the two
is meant. There is no network underneath. The server starts, waits for the end
of its input, and stops; the client talks to a server of its own in the same
process.

Key definition: `main`.
-/
import BroadcastChat.CommandLine.Client
import BroadcastChat.CommandLine.Server
import BroadcastChat.Network.Terminal

namespace BroadcastChat.Shell

/-- Prints lines. -/
def printAll (lines : List String) : IO Unit := lines.forM fun line => IO.println line

/-- Reads the input to its end. -/
partial def awaitEnd (input : IO.FS.Stream) : IO Unit := do
  if (← input.getLine).isEmpty then return
  awaitEnd input

/-- Runs a server until its input ends. -/
def runServer (choice : CommandLine.Server.Choice) : IO UInt32 := do
  printAll (Log.shown choice.logLevel [CommandLine.Server.started choice.settings])
  awaitEnd (← IO.getStdin)
  printAll (Log.shown choice.logLevel (CommandLine.Server.stopped .interrupt 0))
  return 0

/-- The time in milliseconds. -/
def currentTime : IO Timestamp := do return ⟨Int64.ofNat (← IO.monoMsNow)⟩

/-- Prints what a client has printed since the last time, and goes on until it is done. -/
partial def talk (input : IO.FS.Stream) (shown : Nat) (terminal : Terminal) (network : Network) :
    IO UInt32 := do
  printAll (terminal.console.printed.drop shown)
  let shown := terminal.console.printed.length
  match terminal.console.phase with
  | .done none => return 0
  | .done (some error) =>
    IO.eprintln s!"error: {error.message}"
    return 1
  | _ =>
    let line ← input.getLine
    let time ← currentTime
    let (terminal, network) :=
      if line.isEmpty then terminal.endInput time network else terminal.type time network line
    talk input shown terminal network

/-- Runs a client against a server of its own. -/
def runClient (options : Client.Options) (task : Client.Task) : IO UInt32 := do
  let network := Network.new true options.address {}
  let (terminal, network) := Terminal.start (← currentTime) network options task
  talk (← IO.getStdin) 0 terminal network

/-- Does what a command line asks for. -/
def perform {α : Type} (run : α → IO UInt32) : CommandLine.Request α → IO UInt32
  | .run task => run task
  | .tell text => do
    IO.println text
    return 0
  | .refuse => return 2

end BroadcastChat.Shell

open BroadcastChat

/-- Runs the server or the client. -/
def main : List String → IO UInt32
  | "server" :: args => Shell.perform Shell.runServer (CommandLine.Server.parse args)
  | "client" :: args =>
    Shell.perform (fun (options, task) => Shell.runClient options task)
      (CommandLine.Client.parse args)
  | _ => return 2
