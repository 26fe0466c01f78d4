/-
# Time stamps and the clock

A time stamp counts milliseconds from the Unix epoch and is a signed 64-bit
word. Its clock text is the time of day in UTC, `HH:MM:SS`, rounded down to a
whole second also before the epoch. The calendar the clock belongs to ends:
outside it a time stamp has no clock text.

Key definitions: `Timestamp`, `Timestamp.secondOfDay`, `Timestamp.clock?`.
-/

namespace BroadcastChat

/-- Milliseconds since the Unix epoch. -/
structure Timestamp where
  millis : Int64
  deriving DecidableEq

namespace Timestamp

/-- The first and the last millisecond that the calendar reaches. -/
def calendar : Int × Int := (-8334601228800000, 8210266876799999)

/-- The seconds since midnight, rounded down. -/
def secondOfDay (stamp : Timestamp) : Nat :=
  (Int.fmod (Int.fdiv stamp.millis.toInt 1000) 86400).toNat

/-- The decimal digit of a number below ten. -/
def digit (n : Nat) : Char := Char.ofNat (48 + n % 10)

/-- A number below a hundred with two digits. -/
def twoDigits (n : Nat) : String := String.ofList [digit (n / 10), digit n]

/-- The time of day `HH:MM:SS`, if the calendar reaches the time stamp. -/
def clock? (stamp : Timestamp) : Option String :=
  if calendar.1 ≤ stamp.millis.toInt ∧ stamp.millis.toInt ≤ calendar.2 then
    let second := stamp.secondOfDay
    some (twoDigits (second / 3600) ++ ":" ++ twoDigits (second / 60 % 60) ++ ":" ++
      twoDigits (second % 60))
  else none

/-- The decimal text of a time stamp. -/
def text (stamp : Timestamp) : String := toString stamp.millis.toInt

/-- Earlier time stamps first. -/
def sort (stamps : List Timestamp) : List Timestamp :=
  stamps.mergeSort fun a b => a.millis.toInt ≤ b.millis.toInt

end Timestamp

end BroadcastChat
