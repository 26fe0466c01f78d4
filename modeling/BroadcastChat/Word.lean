/-
# The bounds of 64-bit words

Key definitions: `Word.unsignedMax`, `Word.signedMin`, `Word.signedMax`.
-/

namespace BroadcastChat.Word

/-- The largest unsigned word. -/
def unsignedMax : Nat := 18446744073709551615

/-- The least signed word. -/
def signedMin : Int := -9223372036854775808

/-- The largest signed word. -/
def signedMax : Int := 9223372036854775807

end BroadcastChat.Word
