/-
# Blank characters

The characters with the Unicode property White_Space, and trimming a text of
them at both ends. The property is stable: twenty-five characters have it.

Key definitions: `Text.blanks`, `Text.isBlank`, `Text.trim`.
-/

namespace BroadcastChat.Text

/-- The ranges of the blank characters, each with its first and last code point. -/
def blanks : List (Nat × Nat) :=
  [(0x09, 0x0D), (0x20, 0x20), (0x85, 0x85), (0xA0, 0xA0), (0x1680, 0x1680), (0x2000, 0x200A),
    (0x2028, 0x2029), (0x202F, 0x202F), (0x205F, 0x205F), (0x3000, 0x3000)]

/-- Whether a character is blank. -/
def isBlank (c : Char) : Bool :=
  blanks.any fun (first, last) => first ≤ c.toNat && c.toNat ≤ last

/-- A list without the elements of a kind that stand at its end. -/
def dropTrailing {α : Type} (p : α → Bool) (as : List α) : List α :=
  (as.reverse.dropWhile p).reverse

/-- A text without the blanks at its ends. -/
def trim (text : String) : String :=
  String.ofList (dropTrailing isBlank (text.toList.dropWhile isBlank))

example : (blanks.map fun (first, last) => last + 1 - first).sum = 25 := by decide

end BroadcastChat.Text
