/-
# Command lines

A command line is a row of words, of which some are switches. A switch has a
long name behind two dashes, perhaps a letter behind one, and perhaps a value:
behind an equals sign, behind the letter itself, or in the next word, which must
not look like a switch then. No switch may stand twice. The words are read from
left to right, and the first one that is refused, or that asks for help or the
version, decides.

Key definitions: `CommandLine.Switch`, `CommandLine.Grammar`,
`CommandLine.Reading`, `CommandLine.read`, `CommandLine.port?`.
-/
import BroadcastChat.Text.Decimal

namespace BroadcastChat.CommandLine

open Text

/-- A switch of a command line. -/
structure Switch where
  long : String
  short : Option Char := none
  takesValue : Bool := true
  deriving DecidableEq, Repr

/-- What a command line may hold, and what each switch with its value does; `none` refuses it. -/
structure Grammar (σ : Type) where
  switches : List Switch
  hasVersion : Bool
  apply : Switch → String → σ → Option σ

/-- What comes of reading a command line. -/
inductive Reading (σ : Type) where
  | finished (settings : σ)
  /-- A word that is no switch, and what follows it. -/
  | word (word : String) (rest : List String) (settings : σ)
  | version
  | help
  | refused

/-- What a single word of a command line is. -/
inductive Word where
  /-- A switch, and the value that is attached to it. -/
  | switch (switch : Switch) (value : Option String)
  | version
  | help
  /-- Two dashes: no switch follows. -/
  | dashes
  | plain
  | refused
  deriving DecidableEq, Repr

/-- A switch by its long name, with an attached value. -/
def longWord {σ : Type} (grammar : Grammar σ) (cs : List Char) : Word :=
  let name := String.ofList (cs.takeWhile (· ≠ '='))
  let value : Option String :=
    match cs.dropWhile (· ≠ '=') with
    | [] => none
    | _ :: value => some (String.ofList value)
  match grammar.switches.find? fun switch => switch.long == name with
  | some switch => if value.isSome ∧ ¬switch.takesValue then .refused else .switch switch value
  | none =>
    if value.isSome then .refused
    else if name = "help" then .help
    else if name = "version" ∧ grammar.hasVersion then .version
    else .refused

/-- A switch by its letter; the rest of the word is the value. -/
def shortWord {σ : Type} (grammar : Grammar σ) (letter : Char) (rest : List Char) : Word :=
  match grammar.switches.find? fun switch => switch.short = some letter with
  | some switch =>
    match rest with
    | [] => .switch switch none
    | '=' :: value => .switch switch (some (String.ofList value))
    | value => .switch switch (some (String.ofList value))
  | none =>
    if letter = 'h' then .help
    else if letter = 'V' ∧ grammar.hasVersion then .version
    else .refused

/-- What a word is. -/
def wordOf {σ : Type} (grammar : Grammar σ) (word : String) : Word :=
  match word.toList with
  | ['-', '-'] => .dashes
  | '-' :: '-' :: cs => longWord grammar cs
  | '-' :: letter :: rest => shortWord grammar letter rest
  | _ => .plain

/-- Whether a word can be the value of the switch before it. -/
def canBeValue (word : String) : Bool :=
  match word.toList with
  | '-' :: _ :: _ => false
  | _ => true

/-- Applies a switch that was not used before. -/
def applyOnce {σ : Type} (grammar : Grammar σ) (used : List Switch) (settings : σ)
    (switch : Switch) (value : String) : Option σ :=
  if used.contains switch then none else grammar.apply switch value settings

/-- Reads a command line; `used` are the switches that stood before. -/
def read {σ : Type} (grammar : Grammar σ) (used : List Switch) (settings : σ) :
    List String → Reading σ
  | [] => .finished settings
  | word :: rest =>
    match wordOf grammar word with
    | .version => .version
    | .help => .help
    | .refused => .refused
    | .dashes => if rest = [] then .finished settings else .refused
    | .plain => .word word rest settings
    | .switch switch (some value) =>
      match applyOnce grammar used settings switch value with
      | none => .refused
      | some settings => read grammar (switch :: used) settings rest
    | .switch switch none =>
      if switch.takesValue then
        match rest with
        | [] => .refused
        | value :: rest =>
          if canBeValue value then
            match applyOnce grammar used settings switch value with
            | none => .refused
            | some settings => read grammar (switch :: used) settings rest
          else .refused
      else
        match applyOnce grammar used settings switch "" with
        | none => .refused
        | some settings => read grammar (switch :: used) settings rest

/-- What a program is to do after its command line was read. -/
inductive Request (α : Type) where
  | run (task : α)
  /-- Shows a text and is done. -/
  | tell (text : String)
  | refuse
  deriving DecidableEq, Repr

/-! ### Numbers -/

/-- A port; zero may have a minus sign. -/
def port? (text : String) : Option UInt16 :=
  match text.toList with
  | '-' :: digits =>
    ((natural? 0 (String.ofList digits)).filter fun _ => digits.head? ≠ some '+').map UInt16.ofNat
  | _ => (natural? 65535 text).map UInt16.ofNat

end BroadcastChat.CommandLine
