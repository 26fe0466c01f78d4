/-
# Passing over a value

A value that nobody asked for is passed over: it must be well-formed, but its
numbers are not evaluated and its texts not decoded, and it may be nested to
any depth. The brackets open around the current place are kept as a stack, so
one pass over the tokens is enough.

Key definitions: `Bracket`, `Place`, `pass`.
Key theorem: `pass_shrinks`.
-/
import BroadcastChat.Json.Token

namespace BroadcastChat.Json

/-- A bracket that is still open. -/
inductive Bracket where
  | array
  | object
  deriving DecidableEq, Repr

/-- What may come next while a value is passed over. -/
inductive Place where
  | value
  | firstItem
  | firstMember
  | member
  | colon
  | separator
  deriving DecidableEq, Repr

/-- What may come next inside a bracket once a value in it is complete, and what a comma leads
to. -/
def Bracket.next : Bracket → Place
  | .array => .value
  | .object => .member

/-- The token that closes a bracket. -/
def Bracket.closer : Bracket → Token
  | .array => .closeArray
  | .object => .closeObject

/-- Passes over a value of any depth; `opened` are the brackets open around the place, innermost
first. With none open, the value is complete as soon as a value is. -/
def pass : Place → List Bracket → List Token → Except Fault (List Token)
  | _, _, [] => .error .truncated
  | .colon, opened, t :: ts => if t = .colon then pass .value opened ts else .error .malformed
  | .separator, [], _ :: _ => .error .malformed
  | .separator, bracket :: opened, t :: ts =>
    if t = .comma then pass bracket.next (bracket :: opened) ts
    else if t = bracket.closer then
      if opened = [] then .ok ts else pass .separator opened ts
    else .error .malformed
  | place, opened, t :: ts =>
    if place = .firstItem ∧ t = .closeArray ∨ place = .firstMember ∧ t = .closeObject then
      if opened.tail = [] then .ok ts else pass .separator opened.tail ts
    else if place = .member ∨ place = .firstMember then
      match t with
      | .text _ => pass .colon opened ts
      | .brokenText _ asPassed => .error asPassed
      | _ => .error .malformed
    else
      match t with
      | .openArray => pass .firstItem (.array :: opened) ts
      | .openObject => pass .firstMember (.object :: opened) ts
      | .null | .truth _ | .number _ | .text _ =>
        if opened = [] then .ok ts else pass .separator opened ts
      | .brokenText _ asPassed | .broken _ asPassed => .error asPassed
      | _ => .error .malformed

/-- A value that is not complete cannot end. -/
@[simp]
theorem pass_nil (place : Place) (opened : List Bracket) :
    pass place opened [] = .error .truncated := by
  simp [pass]

theorem pass_shrinks {place : Place} {opened : List Bracket} {ts rest : List Token}
    (h : pass place opened ts = .ok rest) : rest.length < ts.length := by
  fun_induction pass place opened ts <;> simp_all <;> omega

end BroadcastChat.Json
