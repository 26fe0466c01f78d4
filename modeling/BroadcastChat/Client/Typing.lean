/-
# Taking back what was typed

A backspace in a typed line takes back what the user sees as the last character
before it, by its size in bytes. The sizes are kept modulo 256, so that less
than all is taken back of a larger one; when what is left is no text, the line
is lost.

Key definitions: `Client.Draft`, `Client.edited?`.
Key theorem: `Client.edited?_of_not_mem`.
-/
import BroadcastChat.Text.Cluster

namespace BroadcastChat.Client

open Text

/-- A line on the way: its characters and the sizes that backspaces take back, both last one
first. -/
structure Draft where
  backwards : List Char
  sizes : List Nat
  deriving DecidableEq, Repr

/-- The key that takes back. -/
def backspace : Char := '\x08'

/-- How many sizes are told apart. -/
def sizeCount : Nat := 256

/-- A text without so many bytes at its end, if it may end there; its last character stands
first. -/
def takeBack (size : Nat) : List Char → Option (List Char)
  | [] => if size = 0 then some [] else none
  | c :: cs =>
    if size = 0 then some (c :: cs)
    else if c.utf8Size ≤ size then takeBack (size - c.utf8Size) cs
    else none

namespace Draft

/-- Nothing is typed. -/
def empty : Draft := ⟨[], []⟩

/-- The size of a cluster. -/
def sizeOf (cluster : List Char) : Nat :=
  cluster.foldl (fun size c => size + c.utf8Size) 0 % sizeCount

/-- One more cluster is typed. -/
def type? (draft : Draft) (cluster : List Char) : Option Draft :=
  if cluster = [backspace] then
    match draft.sizes with
    | [] => some draft
    | size :: sizes => (takeBack size draft.backwards).map (⟨·, sizes⟩)
  else some ⟨cluster.reverse ++ draft.backwards, sizeOf cluster :: draft.sizes⟩

end Draft

/-- What a typed line is after its backspaces have been applied. -/
def edited? (line : List Char) : Option (List Char) :=
  if line.contains backspace then
    ((clusters line).foldlM Draft.type? .empty).map fun draft => draft.backwards.reverse
  else some line

/-- A line without backspaces stays as it is. -/
theorem edited?_of_not_mem {line : List Char} (h : backspace ∉ line) :
    edited? line = some line := by
  simp [edited?, h]

end BroadcastChat.Client
