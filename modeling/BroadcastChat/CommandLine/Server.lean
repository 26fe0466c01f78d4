/-
# The server's command line

Key definitions: `CommandLine.Server.parse`, `CommandLine.Server.run`.
-/
import BroadcastChat.CommandLine
import BroadcastChat.Log
import BroadcastChat.Settings
import BroadcastChat.Word

namespace BroadcastChat.CommandLine.Server

/-- What the server is told. -/
structure Choice where
  settings : ServerSettings := {}
  logLevel : String := "info"
  deriving DecidableEq, Repr

/-- The server's version. -/
def version : String := "murmur-server 0.0.1"

/-- How the server is called. -/
def usage : String := "Usage: murmur-server [OPTIONS]"

/-- What a switch does. -/
def apply (switch : Switch) (value : String) (choice : Choice) : Option Choice :=
  let settings := choice.settings
  match switch.long with
  | "host" => some { choice with settings := { settings with host := value } }
  | "port" => (port? value).map fun port => { choice with settings := { settings with port } }
  | "outbound-capacity" =>
    (Text.natural? Word.unsignedMax value).map fun n =>
      { choice with settings := { settings with hub := { settings.hub with capacity := max n 1 } } }
  | "hello-policy" =>
    (GreetingPolicy.ofText? value false).map fun policy =>
      { choice with settings := { settings with hub := { settings.hub with policy } } }
  | "log-level" => some { choice with logLevel := value }
  | _ => none

/-- The server's switches. -/
def grammar : Grammar Choice where
  switches := [{ long := "host" }, { long := "port", short := some 'p' },
    { long := "outbound-capacity" }, { long := "hello-policy" }, { long := "log-level" }]
  hasVersion := true
  apply := apply

/-- What a command line asks of the server. -/
def parse (args : List String) : Request Choice :=
  match read grammar [] {} args with
  | .finished choice => .run choice
  | .version => .tell version
  | .help => .tell usage
  | .word _ _ _ | .refused => .refuse

/-! ### What the server logs -/

/-- What tells a server to stop. -/
inductive Signal where
  | interrupt
  | terminate
  deriving DecidableEq, Repr

/-- How a signal is logged. -/
def Signal.text : Signal → String
  | .interrupt => "Received Ctrl+C"
  | .terminate => "Received SIGTERM"

/-- How a greeting policy is logged. -/
def policyText : GreetingPolicy → String
  | .broadcast => "Broadcast"
  | .registerOnly => "RegisterOnly"

/-- What is logged when the server listens. -/
def started (settings : ServerSettings) : Log.Line :=
  let capacity := s!"outbound capacity {settings.hub.capacity}"
  let policy := s!"hello policy {policyText settings.hub.policy}"
  ⟨.info, .listening, s!"Listening on {settings.address} ({capacity}, {policy})"⟩

/-- What is logged when the server stops with so many clients connected. -/
def stopped (signal : Signal) (clients : Nat) : List Log.Line :=
  [⟨.info, .signals, signal.text⟩,
    ⟨.info, .listening, "Shutdown requested; closing all connections"⟩,
    ⟨.info, .hub, s!"Shutting down chat hub ({clients} client(s))"⟩,
    ⟨.trace, .connections, "received graceful shutdown signal. Telling tasks to shutdown"⟩,
    ⟨.trace, .connections, "signal received, not accepting new connections"⟩,
    ⟨.trace, .connections, s!"waiting for {clients} task(s) to finish"⟩,
    ⟨.info, .listening, "Server stopped"⟩]

/-- What is logged when the server fails. -/
def failed (error : ServerError) : Log.Line :=
  ⟨.error, .program, s!"Server error: {error.message}"⟩

/-- The log and the exit code of a server that nobody connects to until it gets a signal; `bound`
says whether it could listen, or why not. -/
def run (settings : ServerSettings) (bound : Except String Unit) (signal : Signal) :
    Nat × List Log.Line :=
  match bound with
  | .ok () => (0, started settings :: stopped signal 0)
  | .error reason => (1, [failed (.bind settings.address reason)])

end BroadcastChat.CommandLine.Server
