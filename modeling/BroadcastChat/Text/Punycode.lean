/-
# Punycode

Writes any text in lower-case letters, digits and hyphens: first the ASCII
characters as they are, then, behind a hyphen, one number for each other
character, in ascending order of the characters. A number counts the steps
from the place and character before to this one. Its digits run from `a` to
`z` and `0` to `9`, the least one first; which digits end a number is adapted
to the numbers that came before.

Key definitions: `Punycode.encode`, `Punycode.decode?`.
-/

namespace BroadcastChat.Text.Punycode

/-! ### Digits -/

/-- How many digits there are. -/
def base : Nat := 36

/-- The digit of a number below `base`. -/
def digit (n : Nat) : Char :=
  if n < 26 then Char.ofNat (97 + n) else Char.ofNat (22 + n)

/-- The value of a digit. -/
def value? (c : Char) : Option Nat :=
  if 'a' ≤ c ∧ c ≤ 'z' then some (c.toNat - 97)
  else if '0' ≤ c ∧ c ≤ '9' then some (c.toNat - 22)
  else none

/-- From which value on a digit is followed by another one, at a place `place` times `base`. -/
def threshold (place bias : Nat) : Nat :=
  max 1 (min 26 (place * base - bias))

/-- Divides a step until it is small, at most so often; counts how often. -/
def shrinkWithin : Nat → Nat → Nat × Nat
  | 0, step => (step, 0)
  | fuel + 1, step =>
    if 455 < step then
      let (rest, times) := shrinkWithin fuel (step / 35)
      (rest, times + 1)
    else (step, 0)

/-- Divides a step until it is small; counts how often. -/
def shrink (step : Nat) : Nat × Nat := shrinkWithin step step

/-- The bias after a number, with the count of characters that are placed then. -/
def adapt (step count : Nat) (isFirst : Bool) : Nat :=
  let start := if isFirst then step / 700 else step / 2
  let (rest, times) := shrink (start + start / count)
  times * base + base * rest / (rest + 38)

/-- The bias before the first number. -/
def initialBias : Nat := 72

/-! ### Writing -/

/-- The digits of a number from a place on; there are at most `fuel` digits more. -/
def digitsFrom (bias : Nat) : Nat → Nat → Nat → List Char
  | 0, _, _ => []
  | fuel + 1, place, n =>
    let t := threshold place bias
    if n < t then [digit n]
    else digit (t + (n - t) % (base - t)) :: digitsFrom bias fuel (place + 1) ((n - t) / (base - t))

/-- The digits of a number. -/
def digits (bias n : Nat) : List Char := digitsFrom bias (n + 1) 1 n

/-- How far writing has come: the steps since the last number, the bias, how many characters have
been placed, and what has been written, last digit first. -/
structure Writing where
  steps : Nat
  bias : Nat
  placed : Nat
  isFirst : Bool
  written : List Char

/-- Passes the characters of a text, writing a number for each that is `wanted`. -/
def passOver (wanted : Char) (writing : Writing) : List Char → Writing
  | [] => writing
  | c :: rest =>
    if c < wanted then passOver wanted { writing with steps := writing.steps + 1 } rest
    else if c = wanted then
      passOver wanted {
        steps := 0
        bias := adapt writing.steps (writing.placed + 1) writing.isFirst
        placed := writing.placed + 1
        isFirst := false
        written := (digits writing.bias writing.steps).reverse ++ writing.written } rest
    else passOver wanted writing rest

/-- Writes the numbers for characters in ascending order; `reached` is the code point up to which
all characters are placed. -/
def encodeFrom (cs : List Char) (writing : Writing) (reached : Nat) : List Char → List Char
  | [] => writing.written.reverse
  | wanted :: rest =>
    let steps := writing.steps + (wanted.toNat - reached) * (writing.placed + 1)
    let writing := passOver wanted { writing with steps } cs
    encodeFrom cs { writing with steps := writing.steps + 1 } (wanted.toNat + 1) rest

/-- The characters that are not in ASCII, each once, in ascending order. -/
def others (cs : List Char) : List Char :=
  ((cs.filter fun c => 128 ≤ c.toNat).mergeSort fun a b => a ≤ b).eraseDups

/-- Writes a text. -/
def encode (cs : List Char) : List Char :=
  let plain := cs.filter fun c => c.toNat < 128
  (if plain = [] then [] else plain ++ ['-']) ++
    encodeFrom cs ⟨0, initialBias, plain.length, true, []⟩ 128 (others cs)

/-! ### Reading -/

/-- The number that starts the text, and what follows it. -/
def number? (bias : Nat) : Nat → Nat → Nat → List Char → Option (Nat × List Char)
  | _, _, _, [] => none
  | place, weight, acc, c :: rest => do
    let d ← value? c
    let t := threshold place bias
    let acc := acc + d * weight
    if d < t then return (acc, rest)
    else number? bias (place + 1) (weight * (base - t)) acc rest

theorem number?_length {bias place weight acc n : Nat} {cs rest : List Char}
    (h : number? bias place weight acc cs = some (n, rest)) : rest.length < cs.length := by
  induction cs generalizing place weight acc with
  | nil => cases h
  | cons c cs ih =>
    unfold number? at h
    cases hd : value? c with
    | none => simp [hd] at h
    | some d =>
      simp only [hd, Option.bind_eq_bind, Option.bind_some] at h
      split at h
      · cases h; simp
      · have := ih h
        simp
        omega

/-- Places characters by the numbers of a text; `place` is the place, and `code` the code point,
from which the next number counts. -/
def decodeFrom (out : List Char) (place code bias : Nat) (isFirst : Bool) (cs : List Char) :
    Option (List Char) :=
  if cs = [] then some out
  else
    match hn : number? bias 1 1 0 cs with
    | none => none
    | some (step, rest) =>
      have := number?_length hn
      let count := out.length + 1
      let code := code + (place + step) / count
      let place := (place + step) % count
      if code.isValidChar then
        decodeFrom (out.take place ++ Char.ofNat code :: out.drop place) (place + 1) code
          (adapt step count isFirst) false rest
      else none
termination_by cs.length

/-- The ASCII characters and the numbers of a text: what stands before and behind the last hyphen.
A hyphen with nothing before it separates nothing. -/
def splitAtHyphen (cs : List Char) : List Char × List Char :=
  let behind := (cs.reverse.takeWhile (· ≠ '-')).reverse
  let plain := cs.take (cs.length - behind.length - 1)
  if plain = [] then ([], cs) else (plain, behind)

/-- Reads a text, if it is one that could have been written. -/
def decode? (cs : List Char) : Option (List Char) :=
  let (plain, numbers) := splitAtHyphen cs
  decodeFrom plain 0 128 initialBias true numbers

end BroadcastChat.Text.Punycode
