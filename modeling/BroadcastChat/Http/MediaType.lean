/-
# Media types

What the body of a request is said to be: a kind and a subtype, both tokens,
with parameters behind semicolons that must be well-formed and are otherwise
ignored. A subtype may carry a suffix behind its last plus sign, as in
`application/problem+json`. Case does not matter.

Key definitions: `MediaType`, `MediaType.ofText?`, `MediaType.isJson`.
-/
import BroadcastChat.Text.Ascii

namespace BroadcastChat.Http

/-- The characters that names and words in a header consist of. -/
def isTokenChar (c : Char) : Bool :=
  c.isAlphanum || "!#$%&'*+-.^_`|~".toList.contains c

/-- A media type without its parameters. -/
structure MediaType where
  kind : String
  subtype : String
  suffix : Option String
  deriving DecidableEq, Repr

namespace MediaType

/-! ### Parameters -/

/-- Where the reading of parameters stands. -/
inductive Position where
  /-- Before a parameter's name. -/
  | nameStart
  | name
  /-- Behind the equals sign. -/
  | valueStart
  | value
  /-- Behind the opening quote. -/
  | quotedStart
  | quoted
  /-- Behind the closing quote. -/
  | afterQuoted
  deriving DecidableEq, Repr

namespace Position

/-- The characters that may stand between quotes. -/
def isQuotable (c : Char) : Bool := 31 < c.toNat && c.toNat < 127

/-- Where the next character leads; `none` if it may not stand there. A quote right behind the
opening one belongs to the value. -/
def next : Position → Char → Option Position
  | nameStart, c =>
    if c = ' ' then some nameStart else if isTokenChar c then some name else none
  | name, c => if c = '=' then some valueStart else if isTokenChar c then some name else none
  | valueStart, c =>
    if c = '"' then some quotedStart else if isTokenChar c then some value else none
  | value, c => if c = ';' then some nameStart else if isTokenChar c then some value else none
  | quotedStart, c => if isQuotable c then some quoted else none
  | quoted, c => if c = '"' then some afterQuoted else if isQuotable c then some quoted else none
  | afterQuoted, c =>
    if c = ';' then some nameStart else if c = ' ' then some afterQuoted else none

/-- Whether the parameters may end here. -/
def mayEnd : Position → Bool
  | nameStart | valueStart | value | afterQuoted => true
  | name | quotedStart | quoted => false

end Position

/-- Whether the text behind the first semicolon is a list of parameters. -/
def areParameters (cs : List Char) : Bool :=
  ((cs.foldlM Position.next .nameStart).map Position.mayEnd).getD false

/-! ### Kind and subtype -/

/-- The subtype and its suffix: what stands around the last plus sign that is not the first
character. -/
def splitSuffix (cs : List Char) : List Char × Option (List Char) :=
  let suffix := (cs.reverse.takeWhile (· ≠ '+')).reverse
  if suffix.length + 1 < cs.length then
    (cs.take (cs.length - suffix.length - 1), some suffix)
  else (cs, none)

/-- The media type that a header's value names, if it names one. -/
def ofText? (value : String) : Option MediaType :=
  let cs := value.toList
  let kind := cs.takeWhile (· ≠ '/')
  match cs.drop kind.length with
  | [] => none
  | _ :: rest =>
    let full := rest.takeWhile (· ≠ ';')
    let parameters := rest.drop full.length
    let (subtype, suffix) := splitSuffix full
    if kind ≠ [] ∧ kind.all isTokenChar ∧ full.all isTokenChar ∧
        (parameters = [] ∨ full ≠ [] ∧ areParameters (parameters.drop 1)) then
      some ⟨Text.lower (String.ofList kind), Text.lower (String.ofList subtype),
        suffix.map fun s => Text.lower (String.ofList s)⟩
    else none

/-- Whether a body of this type holds JSON. -/
def isJson (type : MediaType) : Bool :=
  type.kind == "application" && (type.subtype == "json" || type.suffix == some "json")

end MediaType

end BroadcastChat.Http
