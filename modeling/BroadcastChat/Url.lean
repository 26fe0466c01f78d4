/-
# Addresses of web sockets

URLs of the scheme `ws`, read forgivingly and written in one normal form. In
the text behind `ws:`, tabs and line ends are ignored, backslashes are slashes,
and any number of them stand before the host. The host ends at a slash, a
question mark or a hash sign; user and password stand before the last at sign
in front of that, the port behind a colon. A path has its dot segments resolved,
and what may not stand in a part is percent-encoded.

Key definitions: `Url`, `Url.parse`, `Url.text`, `Url.appendPair`.
-/
import BroadcastChat.Text.Form
import BroadcastChat.Url.Host

namespace BroadcastChat

open Text

/-- The address of a web socket. User, password, path segments, query and fragment are held as
they are written. -/
structure Url where
  user : List Char
  password : List Char
  host : Url.Host
  port : Option Nat
  segments : List (List Char)
  query : Option (List Char)
  fragment : Option (List Char)
  deriving DecidableEq, Repr

namespace Url

/-! ### What is percent-encoded where -/

/-- Whether a byte stands for itself: a printable ASCII character other than these. -/
def plainBut (others : String) (byte : UInt8) : Bool :=
  0x20 < byte && byte < 0x7F && !(others.toList.contains (Percent.charOfByte byte))

/-- Writes a part of a URL in which these characters may not stand. -/
def written (others : String) (cs : List Char) : List Char :=
  Percent.encode (plainBut others) (String.ofList cs)

/-- What may not stand in a fragment. -/
def fragmentSet : String := "\"<>`"

/-- What may not stand in a query. -/
def querySet : String := "\"#<>'"

/-- What may not stand in a path. -/
def pathSet : String := fragmentSet ++ "#?\x7b\x7d"

/-- What may not stand in a user's name or password. -/
def userSet : String := pathSet ++ "/:;=@[\\]^|"

/-! ### Parts -/

/-- A character that is ignored wherever it stands. -/
def isIgnored (c : Char) : Bool := c == '\t' || c == '\n' || c == '\r'

/-- A slash of either kind. -/
def isSlash (c : Char) : Bool := c == '/' || c == '\\'

/-- A character that ends the host with all that belongs to it. -/
def endsAuthority (c : Char) : Bool := isSlash c || c == '?' || c == '#'

/-- What stands before and behind the last at sign, if there is one. -/
def splitAtUser (cs : List Char) : List Char × List Char :=
  let behind := (cs.reverse.takeWhile (· ≠ '@')).reverse
  (cs.take (cs.length - behind.length - 1), behind)

/-- Host and what follows it: a colon between brackets belongs to the host. -/
def splitAtPort (bracketed : Bool) : List Char → List Char × List Char
  | [] => ([], [])
  | c :: cs =>
    if c = ':' ∧ ¬bracketed then ([], c :: cs)
    else
      let (host, rest) := splitAtPort (c = '[' || bracketed && c ≠ ']') cs
      (c :: host, rest)

/-- The port that need not be written. -/
def defaultPort : Nat := 80

/-- The port of the text behind the host. -/
def portOf : List Char → Except Error (Option Nat)
  | [] => .ok none
  | _ :: digits =>
    match (Hex.numberIn? 10 digits).filter (· ≤ 65535) with
    | none => .error .port
    | some port => .ok (if digits = [] ∨ port = defaultPort then none else some port)

/-! ### Paths -/

/-- Dots that stand for the segment they are in or for the one above, as they may be written. -/
def dots (cs : List Char) : Option Nat :=
  match cs with
  | [] => some 0
  | '.' :: rest => (dots rest).map (· + 1)
  | '%' :: '2' :: 'e' :: rest => (dots rest).map (· + 1)
  | '%' :: '2' :: 'E' :: rest => (dots rest).map (· + 1)
  | _ => none

/-- A letter with a colon or bar, which is never left. -/
def isDrive (cs : List Char) : Bool :=
  match cs with
  | [letter, mark] => letter.isAlpha && (mark == ':' || mark == '|')
  | _ => false

/-- The segments above; last one first. -/
def leave : List (List Char) → List (List Char)
  | [] => []
  | segment :: above => if isDrive segment then segment :: above else above

/-- Resolves dot segments; `done` are the segments before, last one first. -/
def resolve (done : List (List Char)) : List (List Char) → List (List Char)
  | [] => done.reverse
  | segment :: rest =>
    let segment := written pathSet segment
    let closing : List (List Char) := if rest = [] then [[]] else []
    if dots segment = some 2 then resolve (closing ++ leave done) rest
    else if dots segment = some 1 then resolve (closing ++ done) rest
    else resolve (segment :: done) rest

/-- The segments of a path, which may have a slash in front. -/
def segmentsOf (cs : List Char) : List (List Char) :=
  match cs with
  | [] => [[]]
  | c :: rest => resolve [] (pieces isSlash (if isSlash c then rest else c :: rest))

/-! ### Whole URLs -/

/-- Splits off what stands behind a mark, if the mark is there. -/
def splitAtMark (mark : Char) (cs : List Char) : List Char × Option (List Char) :=
  match cs.dropWhile (· ≠ mark) with
  | [] => (cs, none)
  | _ :: behind => (cs.takeWhile (· ≠ mark), some behind)

/-- Reads a URL of which `ws:` is already read. -/
def parse (rest : List Char) : Except Error Url := do
  let cs := (rest.filter fun c => !isIgnored c).dropWhile isSlash
  let authority := cs.takeWhile fun c => !endsAuthority c
  let (before, fragment) := splitAtMark '#' (cs.drop authority.length)
  let (path, query) := splitAtMark '?' before
  let (login, server) := splitAtUser authority
  let (user, password) := splitAtMark ':' login
  let (host, port) := splitAtPort false server
  let host ← Host.parse host
  let port ← portOf port
  return {
    user := written userSet user
    password := written userSet (password.getD [])
    host
    port
    segments := segmentsOf path
    query := query.map (written querySet)
    fragment := fragment.map (written fragmentSet) }

/-- User and password as they are written. -/
def login (url : Url) : List Char :=
  if url.user = [] ∧ url.password = [] then []
  else url.user ++ (if url.password = [] then [] else ':' :: url.password) ++ ['@']

/-- A part behind its mark, if it is there. -/
def marked (mark : Char) (part : Option (List Char)) : List Char :=
  (part.map (mark :: ·)).getD []

/-- The path of a URL. -/
def path (url : Url) : List Char := url.segments.flatMap ('/' :: ·)

/-- Everything of a URL up to its query. -/
def base (url : Url) : List Char :=
  "ws://".toList ++ url.login ++ url.host.text.toList ++
    marked ':' (url.port.map fun port => (toString port).toList) ++ url.path

/-- How a URL is written. -/
def text (url : Url) : String :=
  String.ofList (url.base ++ marked '?' url.query ++ marked '#' url.fragment)

/-- The URL with one more pair in its query. -/
def appendPair (url : Url) (name value : String) : Url :=
  let pair := (Form.encode name).toList ++ '=' :: (Form.encode value).toList
  { url with query := some (match url.query with
    | none => pair
    | some [] => pair
    | some query => query ++ '&' :: pair) }

end Url

end BroadcastChat
