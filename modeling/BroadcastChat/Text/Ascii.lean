/-
# ASCII letters

Case matters in some words and not in others; where it does not, only the
letters of ASCII have one.

Key definitions: `Text.lower`, `Text.sameWord`, `Text.holds`.
-/

namespace BroadcastChat.Text

/-- A text with its ASCII letters in lower case. -/
def lower (text : String) : String := text.map Char.toLower

/-- Whether two texts differ in the case of ASCII letters at most. -/
def sameWord (a b : String) : Bool := lower a == lower b

/-- Whether a word stands somewhere in a text. -/
def holds (word : List Char) : List Char → Bool
  | [] => word.isEmpty
  | c :: cs => word.isPrefixOf (c :: cs) || holds word cs

end BroadcastChat.Text
