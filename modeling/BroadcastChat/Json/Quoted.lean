/-
# Quoted texts

How JSON writes a text between quotes. Writing escapes the quote, the
backslash and the characters below U+0020 and leaves every other character as
it is. Reading takes all escapes; one that starts a surrogate pair must be
followed by the other half. A text that nobody reads is only passed over: its
escapes must be well-formed but need not denote a character.

Both readers start behind the opening quote and return what stands behind the
closing one.

Key definitions: `Quoted.encode`, `Quoted.decode`, `Quoted.pass`.
Key theorem: `Quoted.pass_shrinks`.
-/
import BroadcastChat.Json.Fault
import BroadcastChat.Text.Hex

namespace BroadcastChat.Json.Quoted

open Text

/-! ### Writing -/

/-- How one character is written between quotes. -/
def escape (c : Char) : List Char :=
  if c = '"' then ['\\', '"']
  else if c = '\\' then ['\\', '\\']
  else if c = '\x08' then ['\\', 'b']
  else if c = '\x0c' then ['\\', 'f']
  else if c = '\n' then ['\\', 'n']
  else if c = '\r' then ['\\', 'r']
  else if c = '\t' then ['\\', 't']
  else if c.toNat < 32 then
    ['\\', 'u', '0', '0', Hex.lower (c.toNat / 16), Hex.lower (c.toNat % 16)]
  else [c]

/-- A text between quotes. -/
def encode (text : String) : String :=
  String.ofList ('"' :: text.toList.flatMap escape ++ ['"'])

/-! ### Escapes -/

/-- The 16-bit unit that four hexadecimal digits denote. -/
def unit? (a b c d : Char) : Option Nat := Hex.number? [a, b, c, d]

/-- The fault of a text with fewer than four characters where four hexadecimal digits must stand:
it ends too early only if it also has fewer than four bytes. -/
def unitFault (cs : List Char) : Fault :=
  if cs.foldl (fun size c => size + c.utf8Size) 0 < 4 then .truncated else .malformed

/-- The character that an escape of one letter denotes. -/
def letter? (c : Char) : Option Char :=
  if c = '"' then some '"'
  else if c = '\\' then some '\\'
  else if c = '/' then some '/'
  else if c = 'b' then some '\x08'
  else if c = 'f' then some '\x0c'
  else if c = 'n' then some '\n'
  else if c = 'r' then some '\r'
  else if c = 't' then some '\t'
  else none

/-- Whether a unit is the first half of a surrogate pair. -/
def isLeading (unit : Nat) : Bool := 0xD800 ≤ unit && unit ≤ 0xDBFF

/-- Whether a unit is the second half of a surrogate pair. -/
def isTrailing (unit : Nat) : Bool := 0xDC00 ≤ unit && unit ≤ 0xDFFF

/-- The character of a surrogate pair. -/
def pair (leading trailing : Nat) : Char :=
  Char.ofNat (0x10000 + (leading - 0xD800) * 0x400 + (trailing - 0xDC00))

/-! ### Reading -/

/-- Reads the text up to its closing quote; `read` is what stands before, last character first. -/
def decode (read : List Char) : List Char → Except Fault (String × List Char)
  | [] => .error .truncated
  | c :: rest =>
    if c = '"' then .ok (String.ofList read.reverse, rest)
    else if c = '\\' then
      match rest with
      | [] => .error .truncated
      | 'u' :: a :: b :: c :: d :: rest =>
        match unit? a b c d with
        | none => .error .malformed
        | some unit =>
          if isTrailing unit then .error .malformed
          else if isLeading unit then
            match rest with
            | [] => .error .truncated
            | ['\\'] => .error .truncated
            | '\\' :: 'u' :: a :: b :: c :: d :: rest =>
              match unit? a b c d with
              | none => .error .malformed
              | some trailing =>
                if isTrailing trailing then decode (pair unit trailing :: read) rest
                else .error .malformed
            | '\\' :: 'u' :: short => .error (unitFault short)
            | _ => .error .malformed
          else decode (Char.ofNat unit :: read) rest
      | 'u' :: short => .error (unitFault short)
      | e :: rest =>
        match letter? e with
        | none => .error .malformed
        | some c => decode (c :: read) rest
    else if c.toNat < 32 then .error .malformed
    else decode (c :: read) rest

/-- Passes over the text up to its closing quote. -/
def pass : List Char → Except Fault (List Char)
  | [] => .error .truncated
  | c :: rest =>
    if c = '"' then .ok rest
    else if c = '\\' then
      match rest with
      | [] => .error .truncated
      | 'u' :: a :: b :: c :: d :: rest =>
        match unit? a b c d with
        | none => .error .malformed
        | some _ => pass rest
      | 'u' :: short => .error (unitFault short)
      | e :: rest =>
        match letter? e with
        | none => .error .malformed
        | some _ => pass rest
    else if c.toNat < 32 then .error .malformed
    else pass rest

theorem pass_shrinks {cs rest : List Char} (h : pass cs = .ok rest) :
    rest.length < cs.length := by
  fun_induction pass cs <;> simp_all <;> omega

end BroadcastChat.Json.Quoted
