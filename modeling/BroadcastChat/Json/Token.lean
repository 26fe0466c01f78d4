/-
# The tokens of a JSON text

A text is split into tokens before it is read; blanks between them vanish. A
piece that is no complete token ends the list as a broken one, which carries
the fault that a reader meets who reads it and the fault of one who only
passes over it (a number that stops short is malformed for the latter). A
quoted text whose escapes denote no Unicode text is complete all the same: only
who reads it finds a fault.

Key definitions: `Token`, `Token.next?`, `Token.ofText`.
Key theorem: `Token.next?_shrinks`.
-/
import BroadcastChat.Json.Numeral
import BroadcastChat.Json.Quoted

namespace BroadcastChat.Json

/-- A token of a JSON text. -/
inductive Token where
  | openArray
  | closeArray
  | openObject
  | closeObject
  | colon
  | comma
  | null
  | truth (value : Bool)
  | number (value : Number)
  /-- A quoted text; `none` if its escapes denote no Unicode text. -/
  | text (value : Option String)
  /-- A quoted text that is not complete. -/
  | brokenText (asRead asPassed : Fault)
  /-- Anything else that is not complete. -/
  | broken (asRead asPassed : Fault)
  deriving DecidableEq, Repr

namespace Token

/-- The blanks that may stand between tokens. -/
def isBlank (c : Char) : Bool :=
  c == ' ' || c == '\n' || c == '\t' || c == '\r'

/-- The rest of a word, or the fault of a text in which the word is not complete. -/
def word : List Char → List Char → Except Fault (List Char)
  | [], cs => .ok cs
  | _ :: _, [] => .error .truncated
  | w :: ws, c :: cs => if c = w then word ws cs else .error .malformed

/-- A token for a word, or a broken one. -/
def ofWord (letters : List Char) (token : Token) (cs : List Char) : Token × List Char :=
  match word letters cs with
  | .ok rest => (token, rest)
  | .error fault => (broken fault fault, [])

/-- The token of a quoted text, given what stands behind its opening quote. -/
def ofQuoted (cs : List Char) : Token × List Char :=
  match Quoted.pass cs, Quoted.decode [] cs with
  | .ok rest, .ok (value, _) => (text (some value), rest)
  | .ok rest, .error _ => (text none, rest)
  | .error passed, .error read => (brokenText read passed, [])
  | .error passed, .ok _ => (brokenText passed passed, [])

/-- The token of a numeral. -/
def ofNumeral (cs : List Char) : Token × List Char :=
  match Numeral.scan cs with
  | .ok (numeral, rest) => (number numeral.number, rest)
  | .error fault => (broken fault .malformed, [])

/-- The tokens of one character. -/
def punctuation? (c : Char) : Option Token :=
  if c = '\x7b' then some openObject
  else if c = '\x7d' then some closeObject
  else if c = '[' then some openArray
  else if c = ']' then some closeArray
  else if c = ':' then some colon
  else if c = ',' then some comma
  else none

/-- The word that starts with a letter: its other letters, and its token. -/
def word? (c : Char) : Option (List Char × Token) :=
  if c = 'n' then some (['u', 'l', 'l'], null)
  else if c = 't' then some (['r', 'u', 'e'], truth true)
  else if c = 'f' then some (['a', 'l', 's', 'e'], truth false)
  else none

/-- The token that starts with `c`, and what follows it. -/
def startingWith (c : Char) (cs : List Char) : Token × List Char :=
  if c = '"' then ofQuoted cs
  else
    match punctuation? c, word? c with
    | some token, _ => (token, cs)
    | none, some (letters, token) => ofWord letters token cs
    | none, none =>
      if c = '-' ∨ c.isDigit then ofNumeral (c :: cs) else (broken .malformed .malformed, [])

/-- The first token of a text, if it has any. -/
def next? (cs : List Char) : Option (Token × List Char) :=
  match cs.dropWhile isBlank with
  | [] => none
  | c :: cs => some (startingWith c cs)

theorem word_length {ws cs rest : List Char} (h : word ws cs = .ok rest) :
    rest.length ≤ cs.length := by
  fun_induction word ws cs <;> simp_all
  omega

theorem ofWord_length (letters : List Char) (token : Token) (cs : List Char) :
    (ofWord letters token cs).2.length ≤ cs.length := by
  unfold ofWord
  split
  · exact word_length ‹_›
  · simp

theorem ofQuoted_length (cs : List Char) : (ofQuoted cs).2.length ≤ cs.length := by
  unfold ofQuoted
  split <;> simp_all
  all_goals
    have := Quoted.pass_shrinks ‹_›
    omega

theorem ofNumeral_length (c : Char) (cs : List Char) :
    (ofNumeral (c :: cs)).2.length ≤ cs.length := by
  unfold ofNumeral
  split
  · have := Numeral.scan_shrinks ‹_›
    simp at this
    simp
    omega
  · simp

theorem startingWith_length (c : Char) (cs : List Char) :
    (startingWith c cs).2.length ≤ cs.length := by
  unfold startingWith
  split
  · exact ofQuoted_length cs
  · split
    · exact Nat.le_refl _
    · exact ofWord_length _ _ cs
    · split
      · exact ofNumeral_length c cs
      · simp

theorem next?_shrinks {cs rest : List Char} {token : Token} (h : next? cs = some (token, rest)) :
    rest.length < cs.length := by
  unfold next? at h
  split at h
  · cases h
  · rename_i c tail heq
    have hdrop : (cs.dropWhile isBlank).length ≤ cs.length :=
      (List.dropWhile_sublist isBlank).length_le
    have hstart := startingWith_length c tail
    simp only [Option.some.injEq] at h
    simp only [h] at hstart
    simp only [heq, List.length_cons] at hdrop
    omega

/-- The tokens of a text; `before` are those met so far, last one first. -/
def collect (before : List Token) (cs : List Char) : List Token :=
  match h : next? cs with
  | none => before.reverse
  | some (token, rest) =>
    have := next?_shrinks h
    collect (token :: before) rest
termination_by cs.length

/-- The tokens of a text. -/
def ofText (source : String) : List Token := collect [] source.toList

end Token

end BroadcastChat.Json
