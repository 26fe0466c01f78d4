/-
# Readers of JSON values

A reader takes one value of a certain shape off the front of a token list. A
value of another kind is read to its end first when it is a text, a number or
a word, so that a fault inside it comes before the complaint about its kind;
of an array or object only the bracket is seen.

Key definitions: `Reader`, `Reader.text`, `Reader.integer`, `Reader.refine`,
`Reader.list`, `Reader.read`.
-/
import BroadcastChat.Json.Pass

namespace BroadcastChat.Json

/-- Takes a value off the front of a token list; a value has at least one token. -/
structure Reader (α : Type) where
  run : List Token → Except Fault (α × List Token)
  shrinks : ∀ {ts rest : List Token} {a : α}, run ts = .ok (a, rest) → rest.length < ts.length

/-- The fault of a token list that does not start with a value of the kind wanted. -/
def mismatch : List Token → Fault
  | [] => .truncated
  | .brokenText asRead _ :: _ => asRead
  | .broken asRead _ :: _ => asRead
  | .text none :: _ => .malformed
  | .number .huge :: _ => .malformed
  | .closeArray :: _ => .malformed
  | .closeObject :: _ => .malformed
  | .colon :: _ => .malformed
  | .comma :: _ => .malformed
  | _ :: _ => .unfit none

/-- What stands behind a token that must come next. -/
def expect (token : Token) : List Token → Except Fault (List Token)
  | [] => .error .truncated
  | t :: rest => if t = token then .ok rest else .error .malformed

theorem expect_shrinks {token : Token} {ts rest : List Token} (h : expect token ts = .ok rest) :
    rest.length < ts.length := by
  cases ts with
  | nil => cases h
  | cons t ts =>
    simp only [expect] at h
    split at h
    · cases h; simp
    · cases h

namespace Reader

/-! ### Single values -/

/-- Any value, passed over. -/
def anything : Reader Unit where
  run ts := (pass .value [] ts).map fun rest => ((), rest)
  shrinks {ts rest a} h := by
    cases hp : pass .value [] ts with
    | error f => simp [hp, Except.map] at h
    | ok r =>
      simp [hp, Except.map] at h
      exact h ▸ pass_shrinks hp

/-- A text. -/
def text : Reader String where
  run
    | .text (some value) :: rest => .ok (value, rest)
    | ts => .error (mismatch ts)
  shrinks {ts rest a} h := by
    split at h
    · cases h; simp
    · cases h

/-- An integer from `low` to `high`. -/
def integer (low high : Int) : Reader Int where
  run
    | .number (.integer value) :: rest =>
      if low ≤ value ∧ value ≤ high then .ok (value, rest) else .error (.unfit none)
    | ts => .error (mismatch ts)
  shrinks {ts rest a} h := by
    split at h
    · split at h
      · cases h; simp
      · cases h
    · cases h

/-- A value that has to pass a check, whose result takes its place. -/
def refine {α β : Type} (reader : Reader α) (check : α → Except LimitError β) : Reader β where
  run ts := do
    let (a, rest) ← reader.run ts
    match check a with
    | .ok b => .ok (b, rest)
    | .error limit => .error (.unfit (some limit))
  shrinks {ts rest b} h := by
    obtain ⟨⟨_, _⟩, hrun, h⟩ := ok_of_bind h
    simp only at h
    split at h
    · cases h; exact reader.shrinks hrun
    · cases h

/-- A value seen through a function. -/
def map {α β : Type} (f : α → β) (reader : Reader α) : Reader β :=
  reader.refine fun a => .ok (f a)

/-! ### Arrays -/

/-- What stands before the next item of an array; `none` if the array ends here. The bracket
that ends it is left. -/
def nextItem (first : Bool) : List Token → Except Fault (Option (List Token))
  | [] => .error .truncated
  | .closeArray :: _ => .ok none
  | t :: ts =>
    if first then .ok (some (t :: ts))
    else if t = .comma then
      match ts with
      | [] => .error .truncated
      | .closeArray :: _ => .error .malformed
      | ts => .ok (some ts)
    else .error .malformed

theorem nextItem_length {first : Bool} {ts rest : List Token}
    (h : nextItem first ts = .ok (some rest)) : rest.length ≤ ts.length := by
  unfold nextItem at h
  repeat' split at h
  all_goals simp_all

/-- The items of an array up to its end, which is left; `before` are those read, last one first. -/
def items {α : Type} (reader : Reader α) (before : List α) (ts : List Token) :
    Except Fault (List α × List Token) :=
  match hnext : nextItem before.isEmpty ts with
  | .error fault => .error fault
  | .ok none => .ok (before.reverse, ts)
  | .ok (some rest) =>
    match hrun : reader.run rest with
    | .error fault => .error fault
    | .ok (a, tail) =>
      have := nextItem_length hnext
      have := reader.shrinks hrun
      items reader (a :: before) tail
termination_by ts.length

theorem items_length {α : Type} {reader : Reader α} {before out : List α} {ts rest : List Token}
    (h : items reader before ts = .ok (out, rest)) : rest.length ≤ ts.length := by
  fun_induction items reader before ts with
  | case1 => cases h
  | case2 => cases h; exact Nat.le_refl _
  | case3 => cases h
  | case4 before ts rest hnext a tail hrun _ _ ih =>
    have := ih h
    omega

/-- An array of values of one shape. -/
def list {α : Type} (reader : Reader α) : Reader (List α) where
  run
    | .openArray :: ts => do
      let (as, rest) ← items reader [] ts
      let rest ← expect .closeArray rest
      return (as, rest)
    | ts => .error (mismatch ts)
  shrinks {ts rest a} h := by
    split at h
    · rename_i ts
      obtain ⟨⟨_, _⟩, hitems, h⟩ := ok_of_bind h
      obtain ⟨_, hend, h⟩ := ok_of_bind h
      have h₁ := items_length hitems
      have h₂ := expect_shrinks hend
      cases h
      simp only [List.length_cons] at *
      omega
    · cases h

/-! ### Whole texts -/

/-- Reads tokens of which nothing may be left over. -/
def readTokens {α : Type} (reader : Reader α) (ts : List Token) : Except Fault α :=
  match reader.run ts with
  | .error fault => .error fault
  | .ok (a, []) => .ok a
  | .ok (_, _ :: _) => .error .malformed

/-- Reads a text that holds one value and nothing else but blanks. -/
def read {α : Type} (reader : Reader α) (source : String) : Except Fault α :=
  reader.readTokens (Token.ofText source)

end Reader

end BroadcastChat.Json
