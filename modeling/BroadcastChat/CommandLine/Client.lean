/-
# The client's command line

Key definition: `CommandLine.Client.parse`.
-/
import BroadcastChat.Client.Task
import BroadcastChat.CommandLine

namespace BroadcastChat.CommandLine.Client

open BroadcastChat.Client (Options Task)

/-- What the client is told besides its task. -/
structure Choice where
  options : Options := {}
  logLevel : String := "warn"
  name : Option String := none
  deriving DecidableEq, Repr

/-- The client's version. -/
def version : String := "murmur-client 0.0.1"

/-- How the client is called. -/
def usage : String := "Usage: murmur-client [OPTIONS] <COMMAND>"

/-- What a switch does. -/
def apply (switch : Switch) (value : String) (choice : Choice) : Option Choice :=
  let options := choice.options
  match switch.long with
  | "host" =>
    let address := { options.address with host := value }
    some { choice with options := { options with address } }
  | "port" =>
    (port? value).map fun port =>
      { choice with options := { options with address := { options.address with port } } }
  | "timestamps" => some { choice with options := { options with showClock := true } }
  | "log-level" => some { choice with logLevel := value }
  | "name" => some { choice with name := some value }
  | _ => none

/-- The switches that may stand before the task and behind it. -/
def common : List Switch :=
  [{ long := "host" }, { long := "port", short := some 'p' },
    { long := "timestamps", takesValue := false }, { long := "log-level" }]

/-- What may stand before the task. -/
def grammar : Grammar Choice where
  switches := common
  hasVersion := true
  apply := apply

/-- What may stand behind the task; a task that needs a name takes one. -/
def taskGrammar (takesName : Bool) : Grammar Choice where
  switches := if takesName then { long := "name", short := some 'n' } :: common else common
  hasVersion := false
  apply := apply

/-- The task that a word names, given the name it is done under. -/
def taskOf? (word : String) : Option (Bool × (Option String → Task)) :=
  match word with
  | "chat" => some (true, .chat)
  | "listen" => some (true, .listen)
  | "names" => some (false, fun _ => .names)
  | _ => none

/-- What the words behind the task ask for. -/
def parseTask (takesName : Bool) (task : Option String → Task) (rest : List String)
    (choice : Choice) : Request (Options × Task) :=
  match read (taskGrammar takesName) [] choice rest with
  | .finished choice => .run (choice.options, task choice.name)
  | .help => .tell usage
  | .version | .word _ _ _ | .refused => .refuse

/-- What a command line asks of the client. -/
def parse (args : List String) : Request (Options × Task) :=
  match read grammar [] {} args with
  | .word word rest choice =>
    match taskOf? word with
    | some (takesName, task) => parseTask takesName task rest choice
    | none => if word = "help" then .tell usage else .refuse
  | .version => .tell version
  | .help => .tell usage
  | .finished _ | .refused => .refuse

end BroadcastChat.CommandLine.Client
