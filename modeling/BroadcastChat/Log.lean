/-
# The server's log

A line of the log has a level and says which part of the server it comes from.
Which lines are shown is chosen by directives between commas: a level alone is
about all parts; otherwise the start of the parts' names stands before it, with
an equals sign between them, and perhaps a field in brackets that the lines must
have. Where the level is missing, all is shown. Of the directives about a line
the most specific one decides, of several that are equally so the last one, and
what is no directive is left out.

Key definitions: `Log.Level`, `Log.Part`, `Log.Line`, `Log.Directive`,
`Log.Directive.ofText?`, `Log.decisive?`, `Log.shown`.
Key theorem: `Log.specificity_le_of_decisive?`.
-/
import BroadcastChat.Text.Ascii
import BroadcastChat.Text.Blank
import BroadcastChat.Text.Decimal
import BroadcastChat.Text.Pieces

namespace BroadcastChat.Log

open Text

/-! ### Lines -/

/-- How much a line of the log matters. -/
inductive Level where
  | error
  | warn
  | info
  | debug
  | trace
  deriving DecidableEq, Repr

namespace Level

/-- The more a line matters, the smaller its rank. -/
def rank : Level → Nat
  | .error => 1
  | .warn => 2
  | .info => 3
  | .debug => 4
  | .trace => 5

/-- How a level is written. -/
def text : Level → String
  | .error => "ERROR"
  | .warn => "WARN"
  | .info => "INFO"
  | .debug => "DEBUG"
  | .trace => "TRACE"

/-- All levels. -/
def all : List Level := [.error, .warn, .info, .debug, .trace]

end Level

/-- The parts of the server that lines of the log come from. -/
inductive Part where
  /-- What listens and stops. -/
  | listening
  /-- What takes signals. -/
  | signals
  | hub
  /-- What takes connections. -/
  | connections
  /-- What starts it all. -/
  | program
  deriving DecidableEq, Repr

/-- How a part is written. -/
def Part.text : Part → String
  | .listening => "murmur_server::ui::runner"
  | .signals => "murmur_server::ui::signal"
  | .hub => "murmur_server::usecase::hub"
  | .connections => "axum::serve"
  | .program => "murmur_server"

/-- A line of the log. Its only field is its message. -/
structure Line where
  level : Level
  part : Part
  text : String
  deriving DecidableEq, Repr

namespace Line

/-- The name of the field that lines have. -/
def field : String := "message"

/-- How a line is shown. -/
def shown (line : Line) : String := s!"{line.level.text} {line.part.text}: {line.text}"

end Line

/-! ### Directives -/

/-- Up to which rank lines are shown that come from parts whose name starts so and that have the
field, if one is named. -/
structure Directive where
  part : String
  field : Option String
  limit : Nat
  deriving DecidableEq, Repr

namespace Directive

/-- The rank that a level denotes, by its name or as a number; `off` is the rank of no line. -/
def limit? (text : String) : Option Nat :=
  (natural? Level.trace.rank text).or
    (if sameWord text "off" then some 0
      else (Level.all.find? fun level => sameWord text level.text).map Level.rank)

/-- The rank that stands behind an equals sign. -/
def limitOf? (cs : List Char) : Option Nat :=
  if cs = [] then some Level.trace.rank else limit? (String.ofList cs)

/-- A character that the name of a part may start with. -/
def startsPart (c : Char) : Bool := c.isAlphanum || "-:_".toList.contains c

/-- The field that is named behind an opening bracket, and what follows the closing one. -/
def bracketed? : List Char → Option (String × List Char)
  | '\x7b' :: cs =>
    let field := cs.takeWhile (· ≠ '\x7d')
    match cs.drop field.length with
    | '\x7d' :: ']' :: rest =>
      if field = [] ∨ field.contains '=' then none else some (String.ofList field, rest)
    | _ => none
  | _ => none

/-- The directive of a part's name and what follows it. -/
def ofName? (name : List Char) : List Char → Option Directive
  | [] =>
    let text := String.ofList name
    some (match limit? text with
      | some limit => ⟨"", none, limit⟩
      | none => ⟨text, none, Level.trace.rank⟩)
  | '=' :: limit => (limitOf? limit).map (⟨String.ofList name, none, ·⟩)
  | _ :: bracket => do
    let (field, rest) ← bracketed? bracket
    let limit ← match rest with
      | '=' :: limit => limitOf? limit
      | rest => if rest.all isBlank then some Level.trace.rank else none
    return ⟨String.ofList name, some field, limit⟩

/-- The directive that a text denotes. -/
def ofText? (text : String) : Option Directive :=
  let cs := text.toList
  let name := cs.takeWhile fun c => c ≠ '=' ∧ c ≠ '['
  if cs.head?.any fun c => c = '[' ∨ startsPart c then ofName? name (cs.drop name.length)
  else none

/-- Whether a directive is about a line. -/
def covers (directive : Directive) (line : Line) : Bool :=
  directive.part.toList.isPrefixOf line.part.text.toList &&
    directive.field.all (· == Line.field)

/-- How much a directive says about the lines that it is about: first by the part's name. -/
def specificity (directive : Directive) : Nat :=
  2 * directive.part.length + if directive.field.isSome then 1 else 0

/-- The directives between commas. -/
def listOf (text : String) : List Directive :=
  (pieces (· == ',') text.toList).filterMap fun piece => ofText? (String.ofList piece)

end Directive

/-! ### What is shown -/

/-- The directives of a choice, which is about the program's own parts; of the others, warnings are
shown. The choice may hold directives of its own behind a comma. -/
def directives (choice : String) : List Directive :=
  Directive.listOf (",".intercalate
    ["warn", s!"murmur_server={choice}", s!"murmur_client={choice}", s!"tower_http={choice}"])

/-- Of a directive and a later one the more specific one; the later one if they are alike. -/
def prefer (best : Option Directive) (later : Directive) : Option Directive :=
  if (best.map Directive.specificity).getD 0 ≤ later.specificity then some later else best

/-- The directive that decides about a line. -/
def decisive? (directives : List Directive) (line : Line) : Option Directive :=
  (directives.filter (·.covers line)).foldl prefer none

theorem prefer_eq_some {best : Option Directive} {later chosen : Directive}
    (h : prefer best later = some chosen) : best = some chosen ∨ chosen = later := by
  unfold prefer at h
  split at h
  · exact .inr (Option.some.inj h).symm
  · exact .inl h

theorem specificity_le_prefer (best : Option Directive) (later : Directive) :
    (best.map Directive.specificity).getD 0 ≤
        ((prefer best later).map Directive.specificity).getD 0 ∧
      later.specificity ≤ ((prefer best later).map Directive.specificity).getD 0 := by
  unfold prefer
  split
  · exact ⟨by simpa, by simp⟩
  · exact ⟨by simp, by omega⟩

theorem specificity_le_fold {best : Option Directive} {directives : List Directive}
    {chosen : Directive} (h : directives.foldl prefer best = some chosen) :
    (best = some chosen ∨ chosen ∈ directives) ∧
      (best.map Directive.specificity).getD 0 ≤ chosen.specificity ∧
      ∀ directive ∈ directives, directive.specificity ≤ chosen.specificity := by
  induction directives generalizing best with
  | nil =>
    rw [List.foldl_nil] at h
    simp [h]
  | cons directive rest ih =>
    obtain ⟨hmem, hbest, hrest⟩ := ih h
    obtain ⟨hold, hnew⟩ := specificity_le_prefer best directive
    refine ⟨?_, Nat.le_trans hold hbest, fun other hother => ?_⟩
    · rcases hmem with hmem | hmem
      · rcases prefer_eq_some hmem with hmem | rfl
        · exact .inl hmem
        · simp
      · simp [hmem]
    · rcases List.mem_cons.1 hother with rfl | hother
      · exact Nat.le_trans hnew hbest
      · exact hrest other hother

/-- What decides about a line is about it, and nothing that is about it is more specific. -/
theorem specificity_le_of_decisive? {directives : List Directive} {line : Line}
    {chosen : Directive} (h : decisive? directives line = some chosen) :
    (chosen ∈ directives ∧ chosen.covers line = true) ∧
      ∀ directive ∈ directives, directive.covers line = true →
        directive.specificity ≤ chosen.specificity := by
  obtain ⟨hmem, _, hmost⟩ := specificity_le_fold h
  simp only [List.mem_filter, reduceCtorEq, false_or, and_imp] at hmem hmost
  exact ⟨hmem, hmost⟩

/-- Whether a line is shown. -/
def isShown (directives : List Directive) (line : Line) : Bool :=
  (decisive? directives line).any fun directive => line.level.rank ≤ directive.limit

/-- The lines that a choice shows. -/
def shown (choice : String) (lines : List Line) : List String :=
  (lines.filter (isShown (directives choice))).map Line.shown

end BroadcastChat.Log
