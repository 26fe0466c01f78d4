/-
# Records

A record is written as an object with its fields in any order, unknown members
passed over, or as an array of its fields in order. A field is written at most
once and may have a fallback for when it is missing.

Key definitions: `Reader.members`, `Field`, `Reader.record₁`, `Reader.record₂`.
-/
import BroadcastChat.Json.Reader

namespace BroadcastChat.Json

namespace Reader

/-! ### Objects -/

/-- The members of an object up to and with its closing bracket, the first key standing first.
`slot` says for each key and the members so far how its value is read. -/
def members {σ : Type} (slot : String → σ → Except Fault (Reader σ)) (state : σ)
    (ts : List Token) : Except Fault (σ × List Token) :=
  match ts with
  | .text (some key) :: ts =>
    match slot key state with
    | .error fault => .error fault
    | .ok reader =>
      match hcolon : expect .colon ts with
      | .error fault => .error fault
      | .ok value =>
        match hrun : reader.run value with
        | .error fault => .error fault
        | .ok (state, .closeObject :: rest) => .ok (state, rest)
        | .ok (state, .comma :: rest) =>
          have := expect_shrinks hcolon
          have := reader.shrinks hrun
          members slot state rest
        | .ok (_, rest) => .error (Fault.malformed.unless rest)
  | .brokenText asRead _ :: _ => .error asRead
  | ts => .error (Fault.malformed.unless ts)
termination_by ts.length
decreasing_by
  simp only [List.length_cons] at *
  omega

theorem members_length {σ : Type} {slot : String → σ → Except Fault (Reader σ)} {s out : σ}
    {ts rest : List Token} (h : members slot s ts = .ok (out, rest)) :
    rest.length < ts.length := by
  fun_induction members slot s ts with
  | case1 => cases h
  | case2 => cases h
  | case3 => cases h
  | case4 _ _ _ _ _ _ hcolon _ _ hrun =>
    have h₁ := expect_shrinks hcolon
    have h₂ := Reader.shrinks _ hrun
    cases h
    simp only [List.length_cons] at *
    omega
  | case5 _ _ _ _ _ _ hcolon _ _ hrun _ _ ih =>
    have h₁ := expect_shrinks hcolon
    have h₂ := Reader.shrinks _ hrun
    have h₃ := ih h
    simp only [List.length_cons] at *
    omega
  | case6 => cases h
  | case7 => cases h
  | case8 => cases h

/-- An object after its opening bracket. -/
def object {σ : Type} (slot : String → σ → Except Fault (Reader σ)) (start : σ) :
    List Token → Except Fault (σ × List Token)
  | .closeObject :: rest => .ok (start, rest)
  | ts => members slot start ts

theorem object_length {σ : Type} {slot : String → σ → Except Fault (Reader σ)} {s out : σ}
    {ts rest : List Token} (h : object slot s ts = .ok (out, rest)) : rest.length < ts.length := by
  unfold object at h
  split at h
  · cases h; simp
  · exact members_length h

end Reader

/-! ### Records -/

/-- A field of a record: its key, how its value is read, and what stands for it when missing. -/
structure Field (α : Type) where
  key : String
  reader : Reader α
  fallback : Option α

namespace Field

/-- A field that must be there. -/
def required {α : Type} (key : String) (reader : Reader α) : Field α := ⟨key, reader, none⟩

/-- A field's value, its fallback if it is missing. -/
def settle {α : Type} (field : Field α) (value : Option α) : Except Fault α :=
  match value, field.fallback with
  | some a, _ => .ok a
  | none, some a => .ok a
  | none, none => .error (.unfit none)

/-- How a field is read from an object: at most once. -/
def slot {α : Type} (field : Field α) (value : Option α) : Except Fault (Reader α) :=
  if value.isSome then .error (.unfit none) else .ok field.reader

/-- A field's value as the next item of an array, if the array has one. -/
def item {α : Type} (field : Field α) (first : Bool) (ts : List Token) :
    Except Fault (Option α × List Token) :=
  match Reader.nextItem first ts with
  | .error fault => .error fault
  | .ok none => .ok (none, ts)
  | .ok (some rest) => (field.reader.run rest).map fun (a, rest) => (some a, rest)

theorem item_length {α : Type} {field : Field α} {first : Bool} {ts rest : List Token}
    {a : Option α} (h : field.item first ts = .ok (a, rest)) : rest.length ≤ ts.length := by
  unfold item at h
  split at h
  · cases h
  · cases h; exact Nat.le_refl _
  · rename_i tail hnext
    have h₁ := Reader.nextItem_length hnext
    cases hrun : field.reader.run tail with
    | error f => simp [hrun, Except.map] at h
    | ok pair =>
      obtain ⟨b, tail'⟩ := pair
      have h₂ := field.reader.shrinks hrun
      simp [hrun, Except.map] at h
      obtain ⟨_, rfl⟩ := h
      omega

end Field

namespace Reader

/-- How the members of a record of one field are collected. -/
def slot₁ {α : Type} (f : Field α) (key : String) (state : Option α) :
    Except Fault (Reader (Option α)) :=
  if key = f.key then (f.slot state).map (Reader.map some)
  else .ok (anything.map fun _ => state)

/-- A record of one field, as an array after its opening bracket. -/
def array₁ {α : Type} (f : Field α) (ts : List Token) : Except Fault (α × List Token) := do
  let (a, rest) ← f.item true ts
  let a ← f.settle a
  let rest ← expect .closeArray rest
  return (a, rest)

/-- A record of one field, as an object after its opening bracket. -/
def object₁ {α : Type} (f : Field α) (ts : List Token) : Except Fault (α × List Token) := do
  let (a, rest) ← object (slot₁ f) none ts
  let a ← f.settle a
  return (a, rest)

/-- A record of one field. -/
def record₁ {α : Type} (f : Field α) : Reader α where
  run
    | .openArray :: ts => array₁ f ts
    | .openObject :: ts => object₁ f ts
    | ts => .error (mismatch ts)
  shrinks {ts rest a} h := by
    split at h
    · obtain ⟨⟨_, _⟩, hitem, h⟩ := ok_of_bind h
      obtain ⟨_, _, h⟩ := ok_of_bind h
      obtain ⟨_, hend, h⟩ := ok_of_bind h
      have h₁ := Field.item_length hitem
      have h₂ := expect_shrinks hend
      cases h
      simp only [List.length_cons] at *
      omega
    · obtain ⟨⟨_, _⟩, hobject, h⟩ := ok_of_bind h
      obtain ⟨_, _, h⟩ := ok_of_bind h
      have h₁ := object_length hobject
      cases h
      simp only [List.length_cons] at *
      omega
    · cases h

/-- How the members of a record of two fields are collected. -/
def slot₂ {α β : Type} (f : Field α) (g : Field β) (key : String) (state : Option α × Option β) :
    Except Fault (Reader (Option α × Option β)) :=
  if key = f.key then (f.slot state.1).map (Reader.map fun a => (some a, state.2))
  else if key = g.key then (g.slot state.2).map (Reader.map fun b => (state.1, some b))
  else .ok (anything.map fun _ => state)

/-- A record of two fields, as an array after its opening bracket. -/
def array₂ {α β : Type} (f : Field α) (g : Field β) (ts : List Token) :
    Except Fault ((α × β) × List Token) := do
  let (a, rest) ← f.item true ts
  let a ← f.settle a
  let (b, rest) ← g.item false rest
  let b ← g.settle b
  let rest ← expect .closeArray rest
  return ((a, b), rest)

/-- A record of two fields, as an object after its opening bracket. -/
def object₂ {α β : Type} (f : Field α) (g : Field β) (ts : List Token) :
    Except Fault ((α × β) × List Token) := do
  let (state, rest) ← object (slot₂ f g) (none, none) ts
  let a ← f.settle state.1
  let b ← g.settle state.2
  return ((a, b), rest)

/-- A record of two fields. -/
def record₂ {α β : Type} (f : Field α) (g : Field β) : Reader (α × β) where
  run
    | .openArray :: ts => array₂ f g ts
    | .openObject :: ts => object₂ f g ts
    | ts => .error (mismatch ts)
  shrinks {ts rest a} h := by
    split at h
    · obtain ⟨⟨_, _⟩, hf, h⟩ := ok_of_bind h
      obtain ⟨_, _, h⟩ := ok_of_bind h
      obtain ⟨⟨_, _⟩, hg, h⟩ := ok_of_bind h
      obtain ⟨_, _, h⟩ := ok_of_bind h
      obtain ⟨_, hend, h⟩ := ok_of_bind h
      have h₁ := Field.item_length hf
      have h₂ := Field.item_length hg
      have h₃ := expect_shrinks hend
      cases h
      simp only [List.length_cons] at *
      omega
    · obtain ⟨⟨_, _⟩, hobject, h⟩ := ok_of_bind h
      obtain ⟨_, _, h⟩ := ok_of_bind h
      obtain ⟨_, _, h⟩ := ok_of_bind h
      have h₁ := object_length hobject
      cases h
      simp only [List.length_cons] at *
      omega
    · cases h

end Reader

end BroadcastChat.Json
