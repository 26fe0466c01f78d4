/-
# JSON in bytes

A JSON text may arrive as bytes that are not UTF-8 throughout. Then only a
quoted text that nobody reads may hold what is stray. In the source handed to
a reader each stray piece becomes a character with the second half of a
surrogate pair behind it: between quotes that is well-formed but denotes no
text, whatever follows, and anywhere else it breaks the grammar.

Key definitions: `sourceOfBytes`, `Reader.readBytes`.
Key theorem: `sourceOfBytes_encode`.
-/
import BroadcastChat.Json.Reader
import BroadcastChat.Text.Utf8

namespace BroadcastChat.Json

open Text

/-- What stands for a stray piece in a source. -/
def strayMark : List Char := [Utf8.replacement, '\\', 'u', 'd', 'c', '0', '0']

/-- The source that bytes hold. -/
def sourceOfBytes (bytes : List UInt8) : String :=
  String.ofList ((Utf8.decode bytes).flatMap fun c => (c.map fun c => [c]).getD strayMark)

/-- Reads bytes that hold one value and nothing else but blanks. -/
def Reader.readBytes {α : Type} (reader : Reader α) (bytes : List UInt8) : Except Fault α :=
  reader.read (sourceOfBytes bytes)

theorem sourceOfBytes_encode (text : String) : sourceOfBytes (Utf8.encode text) = text := by
  simp [sourceOfBytes, Utf8.decode_encode, List.flatMap_map]

end BroadcastChat.Json
