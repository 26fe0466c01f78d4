/-
# Composite characters

A letter with its marks can be one character or several. In the composed form
of a text, every character that is made of others is taken apart, marks that
follow the same character are brought into the order of their ranks, and then
whatever goes together is put together again. The syllables of the Korean
script follow an arithmetic rule instead of a table.

Key definitions: `Composition.decompose`, `Composition.order`,
`Composition.compose`, `Composition.normalize`.
-/
import BroadcastChat.Text.CompositionTable
import BroadcastChat.Text.Table

namespace BroadcastChat.Text.Composition

/-- A composite character and its parts. -/
structure Composite where
  whole : Char
  first : Char
  second : Char
  deriving DecidableEq, Repr

/-- The composites of rows, given the code point of the one before. -/
def compositesAfter (before : Nat) : List (List Nat) → List Composite
  | [gap, first, second] :: rest =>
    ⟨Char.ofNat (before + gap), Char.ofNat first, Char.ofNat second⟩ ::
      compositesAfter (before + gap) rest
  | _ => []

/-- The composite characters. -/
def composites : List Composite := compositesAfter 0 (Table.rows CompositionTable.pairs)

/-- The ranks of marks. -/
def ranks : List Table.Span := Table.spans CompositionTable.ranks

/-- The rank of a character; zero if it is no mark that has one. -/
def rank (c : Char) : Nat := Table.valueOf ranks c

/-! ### Korean syllables -/

/-- Where the syllables start; then the leading consonants, the vowels, and one before the trailing
consonants. -/
def syllableBase : Nat := 0xAC00
def leadBase : Nat := 0x1100
def vowelBase : Nat := 0x1161
def trailBase : Nat := 0x11A7

/-- How many leading consonants, vowels and trailing consonants there are, counting none as one of
the last. -/
def leadCount : Nat := 19
def vowelCount : Nat := 21
def trailCount : Nat := 28

/-- The parts of a syllable. -/
def syllableParts (n : Nat) : List Char :=
  let lead := Char.ofNat (leadBase + n / (vowelCount * trailCount))
  let vowel := Char.ofNat (vowelBase + n % (vowelCount * trailCount) / trailCount)
  if n % trailCount = 0 then [lead, vowel]
  else [lead, vowel, Char.ofNat (trailBase + n % trailCount)]

/-- The syllable of a leading consonant and a vowel, or of a syllable without a trailing consonant
and one. -/
def syllable? (a b : Char) : Option Char :=
  let lead := a.toNat - leadBase
  let vowel := b.toNat - vowelBase
  let open_ := a.toNat - syllableBase
  let trail := b.toNat - trailBase
  if leadBase ≤ a.toNat ∧ lead < leadCount ∧ vowelBase ≤ b.toNat ∧ vowel < vowelCount then
    some (Char.ofNat (syllableBase + (lead * vowelCount + vowel) * trailCount))
  else if syllableBase ≤ a.toNat ∧ open_ < leadCount * vowelCount * trailCount ∧
      open_ % trailCount = 0 ∧ trailBase < b.toNat ∧ trail < trailCount then
    some (Char.ofNat (a.toNat + trail))
  else none

/-! ### Taking apart -/

/-- How often a character can come apart. -/
def depth : Nat := 4

/-- The parts of a character that comes apart at most so often. -/
def parts : Nat → Char → List Char
  | 0, c => [c]
  | times + 1, c =>
    if syllableBase ≤ c.toNat ∧ c.toNat < syllableBase + leadCount * vowelCount * trailCount then
      syllableParts (c.toNat - syllableBase)
    else
      match composites.find? fun composite => composite.whole == c with
      | none => [c]
      | some composite => parts times composite.first ++ [composite.second]

/-- A text taken apart. -/
def decompose (cs : List Char) : List Char := cs.flatMap (parts depth)

/-- Puts a mark in its place behind the others of the same character, which stand last one
first. -/
def insertMark (c : Char) : List Char → List Char
  | [] => [c]
  | mark :: rest => if rank c < rank mark then mark :: insertMark c rest else c :: mark :: rest

/-- Brings marks into order; `marks` are those since the last character that is none, last one
first, and `done` is all before them, last character first. -/
def orderFrom (done marks : List Char) : List Char → List Char
  | [] => (marks ++ done).reverse
  | c :: rest =>
    if rank c = 0 then orderFrom (c :: (marks ++ done)) [] rest
    else orderFrom done (insertMark c marks) rest

/-- A text with its marks in order. -/
def order (cs : List Char) : List Char := orderFrom [] [] cs

/-! ### Putting together -/

/-- The character that two characters make, if they make one. -/
def pair? (a b : Char) : Option Char :=
  (syllable? a b).or
    ((composites.find? fun composite => composite.first == a && composite.second == b).map
      Composite.whole)

/-- Puts together; `base` is the last character that others may join, `marks` are those behind it
that have not, last one first, and `done` is all before, last character first. -/
def composeFrom (done : List Char) (base : Char) (marks : List Char) : List Char → List Char
  | [] => (marks ++ base :: done).reverse
  | c :: rest =>
    let blocked := marks.head?.any fun mark => rank c ≤ rank mark
    match if blocked then none else pair? base c with
    | some whole => composeFrom done whole marks rest
    | none =>
      if rank c = 0 then composeFrom (marks ++ base :: done) c [] rest
      else composeFrom done base (c :: marks) rest

/-- A text put together: marks that stand before every other character stay as they are. -/
def compose (cs : List Char) : List Char :=
  match cs.dropWhile fun c => rank c ≠ 0 with
  | [] => cs
  | base :: rest => composeFrom (cs.takeWhile fun c => rank c ≠ 0).reverse base [] rest

/-- The composed form of a text. -/
def normalize (cs : List Char) : List Char := compose (order (decompose cs))

end BroadcastChat.Text.Composition
