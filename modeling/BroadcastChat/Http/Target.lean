/-
# Request targets

What a request asks for: a path, and a query behind a question mark. In its
absolute form a target has a scheme and an authority (user, host and port)
before the path; without a scheme there may also be an authority alone, which
has no path. A fragment behind a hash sign is dropped.

Key definitions: `Target`, `Target.Fault`, `Target.parse`.
-/

namespace BroadcastChat.Http

/-- What a request asks for. -/
structure Target where
  path : String
  query : String := ""
  deriving DecidableEq, Repr

namespace Target

/-- Why a text is no target. -/
inductive Fault where
  | empty
  | tooLong
  | badCharacter
  | longScheme
  | badAuthority
  | badFormat
  deriving DecidableEq, Repr

/-- How a fault is worded. -/
def Fault.message : Fault → String
  | .empty => "empty string"
  | .tooLong => "uri too long"
  | .badCharacter => "invalid uri character"
  | .longScheme => "scheme too long"
  | .badAuthority => "invalid authority"
  | .badFormat => "invalid format"

/-- How many bytes a target may have. -/
def maxSize : Nat := 65534

/-! ### Path and query -/

/-- Whether a character may stand in a path. -/
def isPathChar (c : Char) : Bool := 32 < c.toNat && !"<>`".toList.contains c

/-- Whether a character may stand in a query. -/
def isQueryChar (c : Char) : Bool := 32 < c.toNat && !"\"<>".toList.contains c

/-- Path and query of the text behind the authority. -/
def parsePath (cs : List Char) : Except Fault Target :=
  let plain := cs.takeWhile (· ≠ '#')
  let path := plain.takeWhile (· ≠ '?')
  let query := (plain.drop path.length).drop 1
  if path.all isPathChar ∧ query.all isQueryChar then
    .ok ⟨if path = [] then "/" else String.ofList path, String.ofList query⟩
  else .error .badCharacter

/-! ### Schemes -/

/-- How many characters a scheme may have. -/
def maxScheme : Nat := 64

/-- Whether a character may stand in a scheme. -/
def isSchemeChar (c : Char) : Bool := c.isAlphanum || "+-.~".toList.contains c

/-- What stands behind the scheme, if there is one; a scheme may be empty if something follows. -/
def behindScheme? (cs : List Char) : Except Fault (Option (List Char)) :=
  let scheme := cs.takeWhile isSchemeChar
  match cs.drop scheme.length with
  | ':' :: '/' :: '/' :: rest =>
    if scheme = [] ∧ rest = [] then .ok none
    else if maxScheme < scheme.length then .error .longScheme
    else .ok (some rest)
  | _ => .ok none

/-! ### Authorities -/

/-- How far an authority has been read: the colons since the last at sign or closing bracket,
whether a bracket has been opened and closed, whether a percent sign stands in what must be the
host so far, and whether the last character is an at sign. -/
structure Authority where
  colons : Nat := 0
  isOpened : Bool := false
  isClosed : Bool := false
  hasPercent : Bool := false
  endsInAt : Bool := false
  deriving DecidableEq, Repr

namespace Authority

/-- A character that ends an authority. -/
def isEnd (c : Char) : Bool := c == '/' || c == '?' || c == '#'

/-- The most colons that may stand in a row of parts: those of an IPv6 address with a port. -/
def maxColons : Nat := 8

/-- Reads one more character. -/
def next (authority : Authority) (c : Char) : Except Fault Authority :=
  let authority := { authority with endsInAt := c == '@' }
  if c = ':' then
    if authority.colons < maxColons then .ok { authority with colons := authority.colons + 1 }
    else .error .badAuthority
  else if c = '[' then
    if authority.hasPercent ∨ authority.isOpened then .error .badAuthority
    else .ok { authority with isOpened := true }
  else if c = ']' then
    if authority.isOpened ∧ ¬authority.isClosed then
      .ok { authority with isClosed := true, colons := 0, hasPercent := false }
    else .error .badAuthority
  else if c = '@' then .ok { authority with colons := 0, hasPercent := false }
  else if c = '%' then .ok { authority with hasPercent := true }
  else if c.isAlphanum ∨ "!$&'()*+,-.;=_~".toList.contains c then .ok authority
  else .error .badCharacter

/-- Whether an authority may end here. -/
def mayEnd (authority : Authority) : Bool :=
  authority.isOpened == authority.isClosed && authority.colons ≤ 1 && !authority.endsInAt &&
    !authority.hasPercent

/-- Reads the authority at the start of a text; what follows it. -/
def behind (cs : List Char) : Except Fault (List Char) := do
  let written := cs.takeWhile fun c => !isEnd c
  let authority ← written.foldlM next {}
  if authority.mayEnd then return cs.drop written.length else throw .badAuthority

end Authority

/-! ### Whole targets -/

/-- Reads a text that starts with neither a slash nor a lone asterisk. -/
def parseFull (cs : List Char) : Except Fault Target := do
  match ← behindScheme? cs with
  | some cs =>
    let rest ← Authority.behind cs
    if rest.length = cs.length then throw .badFormat else parsePath rest
  | none =>
    if (← Authority.behind cs) = [] then return ⟨"", ""⟩
    else throw (if cs.length = 1 then .badCharacter else .badFormat)

/-- Reads a target. -/
def parse (text : String) : Except Fault Target :=
  if maxSize < text.utf8ByteSize then .error .tooLong
  else
    match text.toList with
    | [] => .error .empty
    | ['*'] => .ok ⟨"*", ""⟩
    | '/' :: cs => parsePath ('/' :: cs)
    | cs => parseFull cs

end Target

end BroadcastChat.Http
