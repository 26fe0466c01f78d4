/-
# Names and bodies

The two texts a chat message is made of. A name has 1 to 100 characters, a
body 0 to 10000; characters are Unicode scalar values, never bytes. The limits
are part of the types, so a name or body that exists is within them, and
`Name.ofString`, `Body.ofString` are the only ways in: they keep the text as it
is or say which limit it breaks.

Key definitions: `LimitError`, `Name`, `Body`, `Name.ofString`, `Body.ofString`.
Key theorems: `Name.ofString_text`, `Name.text_of_ofString`,
`Body.ofString_text`, `Body.text_of_ofString`.
-/

namespace BroadcastChat

/-- The limit that a text breaks, with the limit and the text's own length. -/
inductive LimitError where
  | nameEmpty
  | nameTooLong (limit actual : Nat)
  | bodyTooLong (limit actual : Nat)
  deriving DecidableEq, Repr

/-- The wording of a broken limit. -/
def LimitError.message : LimitError → String
  | .nameEmpty => "ClientName cannot be empty"
  | .nameTooLong limit actual => s!"ClientName cannot exceed {limit} characters (got {actual})"
  | .bodyTooLong limit actual => s!"MessageBody cannot exceed {limit} characters (got {actual})"

/-! ### Names -/

/-- The most characters a name may have. -/
def Name.limit : Nat := 100

/-- What a client is called: 1 to `Name.limit` characters. -/
structure Name where
  text : String
  ne_empty : text ≠ ""
  length_le : text.length ≤ Name.limit
  deriving DecidableEq

namespace Name

/-- The name with this text, or the limit it breaks. -/
def ofString (text : String) : Except LimitError Name :=
  if hempty : text = "" then .error .nameEmpty
  else if hlong : text.length ≤ limit then .ok ⟨text, hempty, hlong⟩
  else .error (.nameTooLong limit text.length)

/-- Names are ordered by their characters' code points. -/
instance : LT Name := ⟨fun a b => a.text < b.text⟩

instance (a b : Name) : Decidable (a < b) :=
  inferInstanceAs (Decidable (a.text < b.text))

theorem ext_text {a b : Name} (h : a.text = b.text) : a = b := by
  cases a; cases b; simp_all

/-- Every name is accepted as it is. -/
@[simp] theorem ofString_text (name : Name) : ofString name.text = .ok name := by
  simp [ofString, name.ne_empty, name.length_le]

theorem text_of_ofString {text : String} {name : Name} (h : ofString text = .ok name) :
    name.text = text := by
  unfold ofString at h
  split at h
  · cases h
  · split at h
    · cases h; rfl
    · cases h

end Name

/-! ### Bodies -/

/-- The most characters a body may have. -/
def Body.limit : Nat := 10000

/-- What a message says: at most `Body.limit` characters, possibly none. -/
structure Body where
  text : String
  length_le : text.length ≤ Body.limit
  deriving DecidableEq

namespace Body

/-- The body with this text, or the limit it breaks. -/
def ofString (text : String) : Except LimitError Body :=
  if h : text.length ≤ limit then .ok ⟨text, h⟩
  else .error (.bodyTooLong limit text.length)

/-- The body that says nothing, as in a bare greeting. -/
def empty : Body := ⟨"", by decide⟩

/-- Whether the body says nothing. -/
def isEmpty (body : Body) : Bool := body.text == ""

theorem ext_text {a b : Body} (h : a.text = b.text) : a = b := by
  cases a; cases b; simp_all

/-- Every body is accepted as it is. -/
@[simp] theorem ofString_text (body : Body) : ofString body.text = .ok body := by
  simp [ofString, body.length_le]

theorem text_of_ofString {text : String} {body : Body} (h : ofString text = .ok body) :
    body.text = text := by
  unfold ofString at h
  split at h
  · cases h; rfl
  · cases h

end Body

end BroadcastChat
