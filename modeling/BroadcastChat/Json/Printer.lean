/-
# Printing JSON

The compact form: no blanks, members in the order given.

Key definitions: `object`, `array`.
-/
import BroadcastChat.Json.Quoted

namespace BroadcastChat.Json

/-- A member of an object; its value is printed already. -/
def member (key value : String) : String := Quoted.encode key ++ ":" ++ value

/-- An object of printed values. -/
def object (members : List (String × String)) : String :=
  "\x7b" ++ ",".intercalate (members.map fun (key, value) => member key value) ++ "\x7d"

/-- An array of printed values. -/
def array (items : List String) : String := "[" ++ ",".intercalate items ++ "]"

end BroadcastChat.Json
