/-
# The grammar of JSON values

Which tokens are a value, said without the reader that passes over it: a scalar,
or brackets around values or members with a comma between each two, to any depth
(`IsValue`). What is passed over is exactly a value. The reader keeps only a
stack of open brackets, so both directions are stated for a value inside any
brackets: behind it the reader goes on as behind a complete value.

Key definitions: `Json.IsValue`, `Json.Bracket.tokens`, `Json.afterValue`.
Key theorems: `Json.pass_of_isValue`, `Json.isValue_of_pass`, `Json.pass_iff`,
`Json.IsValue.append_inj`.
-/
import BroadcastChat.Json.Pass

namespace BroadcastChat.Json

/-! ### Values -/

/-- Whether a token is a value of its own. -/
def Token.isScalar : Token → Bool
  | .null | .truth _ | .number _ | .text _ => true
  | _ => false

namespace Bracket

/-- The token that opens a bracket. -/
def opener : Bracket → Token
  | .array => .openArray
  | .object => .openObject

/-- What may come next behind an opening bracket. -/
def first : Bracket → Place
  | .array => .firstItem
  | .object => .firstMember

/-- The tokens of these parts in brackets, with a comma between each two. -/
def tokens (bracket : Bracket) (parts : List (List Token)) : List Token :=
  bracket.opener :: [.comma].intercalate parts ++ [bracket.closer]

end Bracket

/-- The tokens of a member; its name may be one that denotes no text. -/
def memberTokens (member : Option String × List Token) : List Token :=
  .text member.1 :: .colon :: member.2

/-- The tokens of one well-formed value. -/
inductive IsValue : List Token → Prop
  | scalar {t : Token} (h : t.isScalar = true) : IsValue [t]
  | array {items : List (List Token)} (h : ∀ item ∈ items, IsValue item) :
    IsValue (Bracket.array.tokens items)
  | object {members : List (Option String × List Token)}
      (h : ∀ member ∈ members, IsValue member.2) :
    IsValue (Bracket.object.tokens (members.map memberTokens))

/-- What may stand between two commas in brackets. -/
def Bracket.IsPart : Bracket → List Token → Prop
  | .array, part => IsValue part
  | .object, part => ∃ member : Option String × List Token, IsValue member.2 ∧
      part = memberTokens member

theorem IsValue.bracket {bracket : Bracket} {parts : List (List Token)}
    (h : ∀ part ∈ parts, bracket.IsPart part) : IsValue (bracket.tokens parts) := by
  cases bracket with
  | array => exact .array h
  | object =>
    have hmembers : ∃ members : List (Option String × List Token),
        (∀ member ∈ members, IsValue member.2) ∧ parts = members.map memberTokens := by
      induction parts with
      | nil => exact ⟨[], nofun, rfl⟩
      | cons part parts ih =>
        obtain ⟨member, hvalue, rfl⟩ := h part List.mem_cons_self
        obtain ⟨members, hvalues, rfl⟩ := ih fun part hpart => h part (List.mem_cons_of_mem _ hpart)
        exact ⟨member :: members, List.forall_mem_cons.2 ⟨hvalue, hvalues⟩, rfl⟩
    obtain ⟨members, hvalues, rfl⟩ := hmembers
    exact .object hvalues

theorem IsValue.exists_cons {ts : List Token} (h : IsValue ts) :
    ∃ t tail, ts = t :: tail ∧ ∀ bracket : Bracket, t ≠ bracket.closer := by
  cases h with
  | @scalar t h =>
    refine ⟨t, [], rfl, ?_⟩
    rintro bracket rfl
    cases bracket <;> cases h
  | array h => exact ⟨.openArray, _, rfl, by rintro (_ | _) <;> decide⟩
  | object h => exact ⟨.openObject, _, rfl, by rintro (_ | _) <;> decide⟩

theorem Bracket.IsPart.exists_cons {bracket : Bracket} {part : List Token}
    (h : bracket.IsPart part) : ∃ t tail, part = t :: tail ∧ t ≠ bracket.closer := by
  cases bracket with
  | array =>
    obtain ⟨t, tail, hcons, hne⟩ := IsValue.exists_cons h
    exact ⟨t, tail, hcons, hne .array⟩
  | object =>
    obtain ⟨member, -, rfl⟩ := h
    exact ⟨.text member.1, _, rfl, nofun⟩

/-! ### Steps of the reader -/

/-- How passing over goes on behind a complete value. -/
def afterValue : List Bracket → List Token → Except Fault (List Token)
  | [], ts => .ok ts
  | opened, ts => pass .separator opened ts

section

variable {bracket : Bracket} {opened : List Bracket} {t : Token} {ts rest : List Token}

theorem pass_scalar (h : t.isScalar = true) :
    pass .value opened (t :: ts) = afterValue opened ts := by
  cases t with
  | null | truth | number | text => cases opened <;> simp [pass, afterValue]
  | _ => cases h

theorem pass_opener (bracket : Bracket) : pass .value opened (bracket.opener :: ts) =
    pass bracket.first (bracket :: opened) ts := by
  cases bracket <;> simp [pass, Bracket.opener, Bracket.first]

theorem pass_first_closer : pass bracket.first (bracket :: opened) (bracket.closer :: ts) =
    afterValue opened ts := by
  cases bracket <;> cases opened <;> simp [pass, Bracket.closer, Bracket.first, afterValue]

theorem pass_first_of_ne (h : t ≠ bracket.closer) :
    pass bracket.first opened (t :: ts) = pass bracket.next opened (t :: ts) := by
  cases bracket with
  | array =>
    have hne : t ≠ .closeArray := h
    cases t <;> first | exact absurd rfl hne | simp [pass, Bracket.first, Bracket.next]
  | object =>
    have hne : t ≠ .closeObject := h
    cases t <;> first | exact absurd rfl hne | simp [pass, Bracket.first, Bracket.next]

theorem pass_closer : pass .separator (bracket :: opened) (bracket.closer :: ts) =
    afterValue opened ts := by
  cases bracket <;> cases opened <;> simp [pass, Bracket.closer, afterValue]

theorem pass_comma : pass .separator (bracket :: opened) (.comma :: ts) =
    pass bracket.next (bracket :: opened) ts := by
  simp [pass]

theorem pass_member {member : Option String × List Token} :
    pass .member opened (memberTokens member ++ ts) = pass .value opened (member.2 ++ ts) := by
  simp [pass, memberTokens]

/-! ### What the reader passes over -/

theorem value_cases (h : pass .value opened ts = .ok rest) :
    (∃ t behind, ts = t :: behind ∧ t.isScalar = true ∧ afterValue opened behind = .ok rest) ∨
      ∃ bracket behind, ts = Bracket.opener bracket :: behind ∧
        pass bracket.first (bracket :: opened) behind = .ok rest := by
  cases ts with
  | nil => simp at h
  | cons t behind =>
    by_cases hscalar : t.isScalar = true
    · rw [pass_scalar hscalar] at h
      exact .inl ⟨t, behind, rfl, hscalar, h⟩
    cases t with
    | openArray => exact .inr ⟨.array, behind, rfl, (pass_opener .array).symm.trans h⟩
    | openObject => exact .inr ⟨.object, behind, rfl, (pass_opener .object).symm.trans h⟩
    | null | truth | number | text => exact absurd rfl hscalar
    | _ => simp [pass] at h

theorem first_cases (h : pass bracket.first (bracket :: opened) ts = .ok rest) :
    (∃ behind, ts = bracket.closer :: behind ∧ afterValue opened behind = .ok rest) ∨
      pass bracket.next (bracket :: opened) ts = .ok rest := by
  cases ts with
  | nil => simp at h
  | cons t behind =>
    by_cases hcloser : t = bracket.closer
    · subst hcloser
      rw [pass_first_closer] at h
      exact .inl ⟨behind, rfl, h⟩
    · rw [pass_first_of_ne hcloser] at h
      exact .inr h

theorem separator_cases (h : pass .separator (bracket :: opened) ts = .ok rest) :
    (∃ behind, ts = bracket.closer :: behind ∧ afterValue opened behind = .ok rest) ∨
      ∃ behind, ts = .comma :: behind ∧
        pass bracket.next (bracket :: opened) behind = .ok rest := by
  cases ts with
  | nil => simp at h
  | cons t behind =>
    by_cases hcloser : t = bracket.closer
    · subst hcloser
      rw [pass_closer] at h
      exact .inl ⟨behind, rfl, h⟩
    by_cases hcomma : t = .comma
    · subst hcomma
      rw [pass_comma] at h
      exact .inr ⟨behind, rfl, h⟩
    · simp [pass, hcloser, hcomma] at h

theorem member_cases (h : pass .member opened ts = .ok rest) :
    ∃ key behind, ts = .text key :: .colon :: behind ∧ pass .value opened behind = .ok rest := by
  cases ts with
  | nil => simp at h
  | cons t behind =>
    cases t with
    | text key =>
      cases behind with
      | nil => simp [pass] at h
      | cons t behind =>
        by_cases hcolon : t = .colon
        · subst hcolon
          exact ⟨key, behind, rfl, by simpa [pass] using h⟩
        · simp [pass, hcolon] at h
    | _ => simp [pass] at h

end

section

variable {bracket : Bracket} {opened : List Bracket} {parts : List (List Token)}
  {ts rest : List Token}

theorem joined_cons (part : List Token) (parts : List (List Token)) :
    [Token.comma].intercalate (part :: parts) =
      part ++ parts.flatMap fun part => .comma :: part := by
  induction parts generalizing part with
  | nil => simp
  | cons next parts ih => rw [List.intercalate_cons_cons, ih]; simp

/-- Parts that the reader passes over one by one are passed over in their brackets. -/
theorem pass_tokens (bracket : Bracket) (hparts : ∀ part ∈ parts, bracket.IsPart part)
    (hpass : ∀ part ∈ parts, ∀ opened rest, pass bracket.next opened (part ++ rest) =
      afterValue opened rest) (rest : List Token) :
    pass .value opened (bracket.tokens parts ++ rest) = afterValue opened rest := by
  rw [Bracket.tokens, List.cons_append, List.cons_append, List.append_assoc, pass_opener]
  cases parts with
  | nil => exact pass_first_closer
  | cons part parts =>
    have hmore : ∀ parts : List (List Token), (∀ part ∈ parts, ∀ opened rest,
        pass bracket.next opened (part ++ rest) = afterValue opened rest) →
        pass .separator (bracket :: opened)
          ((parts.flatMap fun part => .comma :: part) ++ (bracket.closer :: rest)) =
            afterValue opened rest := by
      intro parts
      induction parts with
      | nil => exact fun _ => pass_closer
      | cons part parts ih =>
        intro hpass
        rw [List.flatMap_cons, List.cons_append, List.cons_append, List.append_assoc, pass_comma,
          hpass part List.mem_cons_self]
        exact ih fun part hpart => hpass part (List.mem_cons_of_mem _ hpart)
    obtain ⟨t, tail, rfl, hne⟩ := (hparts part List.mem_cons_self).exists_cons
    rw [joined_cons, List.append_assoc, List.cons_append, List.singleton_append,
      pass_first_of_ne hne, ← List.cons_append, hpass _ List.mem_cons_self]
    exact hmore parts fun part hpart => hpass part (List.mem_cons_of_mem _ hpart)

/-- **A value is passed over**, whatever brackets are open around it. -/
theorem pass_of_isValue (h : IsValue ts) (opened : List Bracket) (rest : List Token) :
    pass .value opened (ts ++ rest) = afterValue opened rest := by
  induction h generalizing opened rest with
  | scalar h => exact pass_scalar h
  | array h ih => exact pass_tokens .array h ih rest
  | @object members h ih =>
    refine pass_tokens .object (fun part hpart => ?_) (fun part hpart => ?_) rest
    · obtain ⟨member, hmember, rfl⟩ := List.mem_map.1 hpart
      exact ⟨member, h member hmember, rfl⟩
    · obtain ⟨member, hmember, rfl⟩ := List.mem_map.1 hpart
      intro opened rest
      exact pass_member.trans (ih member hmember opened rest)

/-- Whatever shorter than `n` is passed over from a value on starts with one. -/
def ValuesBelow (n : Nat) : Prop :=
  ∀ opened ts rest, ts.length < n → pass .value opened ts = .ok rest →
    ∃ value behind, IsValue value ∧ ts = value ++ behind ∧ afterValue opened behind = .ok rest

variable {n : Nat}

theorem ValuesBelow.part (hvalues : ValuesBelow n) (hlength : ts.length < n)
    (h : pass bracket.next opened ts = .ok rest) :
    ∃ part behind, bracket.IsPart part ∧ ts = part ++ behind ∧
      afterValue opened behind = .ok rest := by
  cases bracket with
  | array => exact hvalues opened ts rest hlength h
  | object =>
    obtain ⟨key, tail, rfl, hpass⟩ := member_cases h
    rw [List.length_cons, List.length_cons] at hlength
    obtain ⟨value, behind, hvalue, rfl, hbehind⟩ := hvalues opened tail rest (by omega) hpass
    exact ⟨memberTokens (key, value), behind, ⟨(key, value), hvalue, rfl⟩, rfl, hbehind⟩

theorem ValuesBelow.more (hvalues : ValuesBelow n) (hlength : ts.length ≤ n)
    (h : pass .separator (bracket :: opened) ts = .ok rest) :
    ∃ (parts : List (List Token)) (behind : List Token), (∀ part ∈ parts, bracket.IsPart part) ∧
      ts = (parts.flatMap fun part => .comma :: part) ++ bracket.closer :: behind ∧
      afterValue opened behind = .ok rest := by
  -- a part is not empty, so what is left gets shorter
  induction hn : ts.length using Nat.strongRecOn generalizing ts with
  | ind length ih =>
    obtain ⟨behind, rfl, hbehind⟩ | ⟨tail, rfl, hpass⟩ := separator_cases h
    · exact ⟨[], behind, nofun, rfl, hbehind⟩
    · rw [List.length_cons] at hn hlength
      obtain ⟨part, behind, hpart, rfl, hafter⟩ := hvalues.part (by omega) hpass
      rw [List.length_append] at hn hlength
      obtain ⟨parts, last, hparts, rfl, hlast⟩ :=
        ih behind.length (by omega) (by omega) hafter rfl
      refine ⟨part :: parts, last, List.forall_mem_cons.2 ⟨hpart, hparts⟩, ?_, hlast⟩
      rw [List.flatMap_cons, List.cons_append, List.cons_append, List.append_assoc]

theorem ValuesBelow.brackets (hvalues : ValuesBelow n) (hlength : ts.length < n)
    (h : pass bracket.first (bracket :: opened) ts = .ok rest) :
    ∃ value behind, IsValue value ∧ bracket.opener :: ts = value ++ behind ∧
      afterValue opened behind = .ok rest := by
  obtain ⟨behind, rfl, hbehind⟩ | hpass := first_cases h
  · exact ⟨bracket.tokens [], behind, .bracket nofun, rfl, hbehind⟩
  · obtain ⟨part, tail, hpart, rfl, hafter⟩ := hvalues.part hlength hpass
    rw [List.length_append] at hlength
    obtain ⟨parts, behind, hparts, rfl, hbehind⟩ := hvalues.more (by omega) hafter
    refine ⟨bracket.tokens (part :: parts), behind,
      .bracket (List.forall_mem_cons.2 ⟨hpart, hparts⟩), ?_, hbehind⟩
    rw [Bracket.tokens, joined_cons]
    simp

theorem valuesBelow (n : Nat) : ValuesBelow n := by
  induction n with
  | zero => exact fun _ _ _ hlength => absurd hlength (Nat.not_lt_zero _)
  | succ n ih =>
    intro opened ts rest hlength h
    obtain ⟨t, behind, rfl, hscalar, hbehind⟩ | ⟨bracket, tail, rfl, hpass⟩ := value_cases h
    · exact ⟨[t], behind, .scalar hscalar, rfl, hbehind⟩
    · rw [List.length_cons] at hlength
      exact ih.brackets (by omega) hpass

/-- **What is passed over from a value on starts with a value**, whatever brackets are open. -/
theorem isValue_of_pass (h : pass .value opened ts = .ok rest) :
    ∃ value behind, IsValue value ∧ ts = value ++ behind ∧ afterValue opened behind = .ok rest :=
  valuesBelow (ts.length + 1) opened ts rest (Nat.lt_succ_self _) h

/-- **Passing over takes exactly a value off the front.** -/
theorem pass_iff : pass .value [] ts = .ok rest ↔ ∃ value, IsValue value ∧ ts = value ++ rest := by
  constructor
  · intro h
    obtain ⟨value, behind, hvalue, rfl, hbehind⟩ := isValue_of_pass h
    cases hbehind
    exact ⟨value, hvalue, rfl⟩
  · rintro ⟨value, hvalue, rfl⟩
    exact pass_of_isValue hvalue [] rest

theorem IsValue.append_inj {us : List Token} {more : List Token} (h : IsValue ts) (h' : IsValue us)
    (heq : ts ++ rest = us ++ more) : ts = us ∧ rest = more := by
  have hfirst : pass .value [] (ts ++ rest) = .ok rest := pass_iff.2 ⟨ts, h, rfl⟩
  have hsecond : pass .value [] (ts ++ rest) = .ok more := pass_iff.2 ⟨us, h', heq⟩
  obtain rfl : rest = more := Except.ok.inj (hfirst.symm.trans hsecond)
  exact ⟨List.append_cancel_right heq, rfl⟩

end

end BroadcastChat.Json
