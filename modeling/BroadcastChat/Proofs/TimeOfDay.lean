/-
# The time of day that a delivery shows

What a clock text is, is said here through what its digits denote
(`IsClock`), and what time of day a time stamp is, by flooring its seconds in
the rationals. A time stamp that the calendar reaches has the clock text of its
time of day (`Timestamp.clock_of_reached`), also before the epoch, and any other
one has none; the line of a delivery is the plain one behind the clock, if
there is a clock and it is wanted.

Key definitions: `TwoDigits`, `IsClock`, `Timestamp.IsReached`, `Client.shownClock?`.
Key theorems: `Timestamp.secondOfDay_eq`, `Timestamp.clock_of_reached`,
`Client.deliveryLine_eq_behindClock_iff`, `clock_of_delivery`.
-/
import BroadcastChat.Client.Line
import Mathlib.Data.Rat.Floor

namespace BroadcastChat

/-! ### Clock texts -/

/-- Two characters that are the digits of a number. -/
def TwoDigits (tens ones : Char) (n : Nat) : Prop :=
  tens.isDigit ∧ ones.isDigit ∧ n = (tens.toNat - 48) * 10 + (ones.toNat - 48)

/-- Hours, minutes and seconds between colons, each with two digits and none too great. -/
inductive IsClock (hour minute second : Nat) : String → Prop where
  | intro {h h' m m' s s' : Char} (hour_lt : hour < 24) (minute_lt : minute < 60)
    (second_lt : second < 60) (hours : TwoDigits h h' hour) (minutes : TwoDigits m m' minute)
    (seconds : TwoDigits s s' second) :
    IsClock hour minute second (String.ofList [h, h', ':', m, m', ':', s, s'])

theorem IsClock.length {hour minute second : Nat} {text : String}
    (h : IsClock hour minute second text) : text.length = 8 := by
  cases h
  rw [String.length_ofList]
  rfl

namespace Timestamp

/-! ### Digits -/

theorem toNat_digit (n : Nat) : (digit n).isDigit ∧ (digit n).toNat - 48 = n % 10 := by
  have hall : ∀ m : Fin 10,
      (Char.ofNat (48 + m)).isDigit ∧ (Char.ofNat (48 + m)).toNat - 48 = m := by
    decide
  exact hall ⟨n % 10, Nat.mod_lt n (by decide)⟩

theorem twoDigits_digits {n : Nat} (h : n < 100) : TwoDigits (digit (n / 10)) (digit n) n := by
  obtain ⟨htens, htensValue⟩ := toNat_digit (n / 10)
  obtain ⟨hones, honesValue⟩ := toNat_digit n
  refine ⟨htens, hones, ?_⟩
  rw [htensValue, honesValue]
  omega

/-! ### The time of day -/

/-- Whether the calendar reaches a time stamp. -/
def IsReached (stamp : Timestamp) : Prop :=
  -8334601228800000 ≤ stamp.millis.toInt ∧ stamp.millis.toInt ≤ 8210266876799999

/-- The seconds since midnight are those since the epoch, rounded down, without whole days. -/
theorem secondOfDay_eq (stamp : Timestamp) :
    (stamp.secondOfDay : ℤ) = ⌊(stamp.millis.toInt : ℚ) / 1000⌋ % 86400 := by
  have hfloor : ⌊(stamp.millis.toInt : ℚ) / 1000⌋ = stamp.millis.toInt / 1000 := by
    exact_mod_cast Rat.floor_intCast_div_natCast stamp.millis.toInt 1000
  rw [secondOfDay, hfloor, Int.fdiv_eq_ediv_of_nonneg _ (by decide),
    Int.fmod_eq_emod_of_nonneg _ (by decide)]
  exact Int.toNat_of_nonneg (Int.emod_nonneg _ (by decide))

theorem secondOfDay_lt (stamp : Timestamp) : stamp.secondOfDay < 86400 := by
  have h := stamp.secondOfDay_eq
  omega

theorem clock?_eq_none_iff {stamp : Timestamp} : stamp.clock? = none ↔ ¬stamp.IsReached := by
  unfold clock?
  split
  · rename_i hreached
    simp only [reduceCtorEq, false_iff, not_not]
    exact hreached
  · rename_i hout
    simp only [true_iff]
    exact hout

/-- **Within the calendar the clock text gives the time of day.** -/
theorem clock_of_reached {stamp : Timestamp} {text : String} (h : stamp.clock? = some text) :
    ∃ hour minute second : Nat, IsClock hour minute second text ∧
      ((hour * 3600 + minute * 60 + second : ℕ) : ℤ) =
        ⌊(stamp.millis.toInt : ℚ) / 1000⌋ % 86400 := by
  have hlt := stamp.secondOfDay_lt
  rw [← secondOfDay_eq]
  unfold clock? at h
  split at h
  · cases h
    refine ⟨stamp.secondOfDay / 3600, stamp.secondOfDay / 60 % 60, stamp.secondOfDay % 60, ?_, ?_⟩
    · have hclock := IsClock.intro
        (show stamp.secondOfDay / 3600 < 24 by omega)
        (show stamp.secondOfDay / 60 % 60 < 60 by omega)
        (show stamp.secondOfDay % 60 < 60 by omega)
        (twoDigits_digits (by omega)) (twoDigits_digits (by omega)) (twoDigits_digits (by omega))
      convert hclock using 1
      exact String.toList_injective (by simp [twoDigits])
    · congr 1
      omega
  · cases h

end Timestamp

/-! ### Lines -/

namespace Client

/-- The clock that the line of a delivery shows. -/
def shownClock? (frame : DeliveryFrame) (showClock : Bool) : Option String :=
  if showClock then frame.timestamp.clock? else none

/-- The line of a delivery without a clock. -/
def plainLine (frame : DeliveryFrame) : String := frame.message.sender ++ ": " ++ frame.message.text

/-- A line behind a clock in brackets. -/
def behindClock (clock line : String) : String := "[" ++ clock ++ "] " ++ line

theorem behindClock_inj {clock other line : String} :
    behindClock clock line = behindClock other line ↔ clock = other := by
  simp [behindClock]

/-- A clock in front makes a line longer. -/
theorem behindClock_ne (clock line : String) : behindClock clock line ≠ line := by
  intro h
  have hlength := congrArg String.length h
  simp only [behindClock, String.length_append] at hlength
  have hbracket : "[".length = 1 := rfl
  omega

section

variable {frame : DeliveryFrame} {showClock : Bool}

theorem shownClock?_eq_some_iff {clock : String} : shownClock? frame showClock = some clock ↔
    showClock = true ∧ frame.timestamp.clock? = some clock := by
  cases showClock <;> simp [shownClock?]

theorem shownClock?_eq_none_iff : shownClock? frame showClock = none ↔
    showClock = false ∨ frame.timestamp.clock? = none := by
  cases showClock <;> simp [shownClock?]

theorem deliveryLine_of_none (h : shownClock? frame showClock = none) :
    deliveryLine frame showClock = plainLine frame := by
  unfold shownClock? at h
  rw [deliveryLine, h]
  rfl

theorem deliveryLine_of_some {clock : String} (h : shownClock? frame showClock = some clock) :
    deliveryLine frame showClock = behindClock clock (plainLine frame) := by
  unfold shownClock? at h
  rw [deliveryLine, h]
  rfl

/-- A clock stands in front of a line if and only if the line shows that clock. -/
theorem deliveryLine_eq_behindClock_iff {clock : String} :
    deliveryLine frame showClock = behindClock clock (plainLine frame) ↔
      shownClock? frame showClock = some clock := by
  cases h : shownClock? frame showClock with
  | none =>
    rw [deliveryLine_of_none h]
    simp [(behindClock_ne clock (plainLine frame)).symm]
  | some shown => rw [deliveryLine_of_some h, behindClock_inj, Option.some_inj]

theorem deliveryLine_eq_plainLine_iff :
    deliveryLine frame showClock = plainLine frame ↔ shownClock? frame showClock = none := by
  cases h : shownClock? frame showClock with
  | none => simp [deliveryLine_of_none h]
  | some shown =>
    rw [deliveryLine_of_some h]
    simp [behindClock_ne]

end

end Client

/-- **The clock of a delivery.** A time stamp has no clock if and only if it is outside the range of
the calendar. Otherwise its clock has eight characters, hours below 24, minutes and seconds below
60 with two digits each, and these are the time of day in whole seconds since the epoch, rounded
down. Every delivery has a line: its sender and its text, behind the clock in brackets if and only
if that is wanted and there is one. -/
theorem clock_of_delivery (stamp : Timestamp) :
    (stamp.clock? = none ↔
      stamp.millis.toInt < -8334601228800000 ∨ 8210266876799999 < stamp.millis.toInt) ∧
    (∀ text, stamp.clock? = some text → text.length = 8 ∧
      ∃ hour minute second : ℕ, IsClock hour minute second text ∧
        ((hour * 3600 + minute * 60 + second : ℕ) : ℤ) =
          ⌊(stamp.millis.toInt : ℚ) / 1000⌋ % 86400) ∧
    ∀ (sender text : String) (showClock : Bool),
      let line := sender ++ ": " ++ text
      let shown := Client.deliveryLine ⟨stamp, ⟨sender, text⟩⟩ showClock
      (∀ clock, shown = "[" ++ clock ++ "] " ++ line ↔
        showClock = true ∧ stamp.clock? = some clock) ∧
      (shown = line ↔ showClock = false ∨ stamp.clock? = none) := by
  refine ⟨?_, fun text htext => ?_, fun sender text showClock => ?_⟩
  · rw [Timestamp.clock?_eq_none_iff, Timestamp.IsReached]
    omega
  · obtain ⟨hour, minute, second, hclock, hseconds⟩ := Timestamp.clock_of_reached htext
    exact ⟨hclock.length, hour, minute, second, hclock, hseconds⟩
  · exact ⟨fun clock => Client.deliveryLine_eq_behindClock_iff.trans Client.shownClock?_eq_some_iff,
      Client.deliveryLine_eq_plainLine_iff.trans Client.shownClock?_eq_none_iff⟩

/-- One millisecond before the epoch it is the last second of a day, and that is shown. -/
theorem clock_of_delivery_before_epoch :
    (⟨-1⟩ : Timestamp).clock? = some "23:59:59" ∧
      (∃ hour minute second : ℕ, IsClock hour minute second "23:59:59" ∧
        ((hour * 3600 + minute * 60 + second : ℕ) : ℤ) =
          ⌊((⟨-1⟩ : Timestamp).millis.toInt : ℚ) / 1000⌋ % 86400) ∧
      Client.deliveryLine ⟨⟨-1⟩, ⟨"rouz", "hi"⟩⟩ true = "[23:59:59] rouz: hi" := by
  have hclock : (⟨-1⟩ : Timestamp).clock? = some "23:59:59" := by decide
  obtain ⟨-, hreached, hlines⟩ := clock_of_delivery ⟨-1⟩
  refine ⟨hclock, (hreached "23:59:59" hclock).2, ?_⟩
  exact ((hlines "rouz" "hi" true).1 "23:59:59").2 ⟨rfl, hclock⟩

end BroadcastChat
