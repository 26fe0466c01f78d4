/-
# What a user sees as one character

A text falls into clusters: a letter with its marks, a syllable, two letters
that name a region by its flag, pictographs that are joined into one. Whether a
character goes together with the one before hangs on the kinds of both, and for
regions, pictographs and linked consonants on what stands before them.

Key definitions: `Cluster.Kind`, `Cluster.Trail`, `Cluster.Trail.joins`,
`clusters`.
Key theorem: `clusters_flatten`.
-/
import BroadcastChat.Text.ClusterTable
import BroadcastChat.Text.Composition

namespace BroadcastChat.Text

namespace Cluster

/-! ### Kinds of characters -/

/-- How a character goes together with others. -/
inductive Kind where
  | other
  | control
  | carriageReturn
  | lineFeed
  | mark
  /-- A mark that links the consonant before with the one behind. -/
  | linker
  | nonJoiner
  | joiner
  | spacing
  /-- It belongs to the character behind. -/
  | before
  | pictograph
  /-- A consonant that can be linked. -/
  | consonant
  | region
  | leading
  | vowel
  | trailing
  /-- A syllable without a trailing consonant. -/
  | openSyllable
  | closedSyllable
  deriving DecidableEq, Repr

namespace Kind

/-- The ranges of the characters that do not simply stand alone. -/
def spans : List Table.Span := Table.spans ClusterTable.kinds

/-- The kinds in the order in which the table numbers them. -/
def numbered : List Kind :=
  [other, control, mark, linker, nonJoiner, joiner, spacing, before, pictograph, consonant, region,
    leading, vowel, trailing]

/-- The kind of a character. -/
def of (c : Char) : Kind :=
  let syllable := c.toNat - Composition.syllableBase
  if c = '\r' then carriageReturn
  else if c = '\n' then lineFeed
  else if Composition.syllableBase ≤ c.toNat ∧
      syllable < Composition.leadCount * Composition.vowelCount * Composition.trailCount then
    if syllable % Composition.trailCount = 0 then openSyllable else closedSyllable
  else numbered.getD (Table.valueOf spans c) other

/-- Whether nothing goes together with such a character. -/
def isControl (kind : Kind) : Bool :=
  kind == control || kind == carriageReturn || kind == lineFeed

/-- Whether a mark of this kind leaves open what is joined or linked through it. -/
def isThrough (kind : Kind) : Bool := kind == mark || kind == joiner

/-- Whether a mark of this kind leaves a pictograph open for a joiner. -/
def isExtending (kind : Kind) : Bool :=
  kind == mark || kind == linker || kind == nonJoiner || kind == joiner

/-- Whether a character of this kind goes together with any one before. -/
def isAttached (kind : Kind) : Bool := kind.isExtending || kind == spacing

/-- The kinds that go together with what is behind, for the parts of syllables. -/
def partners : Kind → List Kind
  | leading => [leading, vowel, openSyllable, closedSyllable]
  | openSyllable => [vowel, trailing]
  | vowel => [vowel, trailing]
  | closedSyllable => [trailing]
  | trailing => [trailing]
  | _ => []

end Kind

/-! ### What stands before -/

/-- What stands before a place in a text: the kind of the last character; whether it is the first
letter of a region; whether a pictograph stands there that a joiner may follow or has followed; and
whether a consonant does that can be linked, or has been. -/
structure Trail where
  last : Kind
  isFirstOfRegion : Bool
  hasPictograph : Bool
  hasConsonant : Bool
  isLinked : Bool
  deriving DecidableEq, Repr

namespace Trail

/-- The trail at the start of a text. -/
def start : Trail := ⟨.control, false, false, false, false⟩

/-- The trail behind one more character. -/
def next (trail : Trail) (kind : Kind) : Trail where
  last := kind
  isFirstOfRegion := kind == .region && !trail.isFirstOfRegion
  hasPictograph := kind == .pictograph ||
    (kind.isExtending && trail.hasPictograph && trail.last != .joiner)
  hasConsonant := kind == .consonant ||
    ((kind.isThrough || kind == .linker) && trail.hasConsonant)
  isLinked := (kind == .linker && trail.hasConsonant) || (kind.isThrough && trail.isLinked)

/-- Whether the next character goes together with the last one. -/
def joins (trail : Trail) (kind : Kind) : Bool :=
  if trail.last = .carriageReturn ∧ kind = .lineFeed then true
  else if trail.last.isControl || kind.isControl then false
  else if kind.isAttached || trail.last == .before then true
  else if kind = .region then trail.isFirstOfRegion
  else if kind = .pictograph then trail.last == .joiner && trail.hasPictograph
  else if kind = .consonant then trail.isLinked
  else trail.last.partners.contains kind

end Trail

end Cluster

/-! ### Clusters -/

/-- The clusters of a text, given its first cluster as far as it is known, last character first,
and what stands before the rest. -/
def clustersFrom (trail : Cluster.Trail) (cluster : List Char) : List Char → List (List Char)
  | [] => [cluster.reverse]
  | c :: cs =>
    let kind := Cluster.Kind.of c
    if trail.joins kind then clustersFrom (trail.next kind) (c :: cluster) cs
    else cluster.reverse :: clustersFrom (trail.next kind) [c] cs

/-- The clusters of a text. -/
def clusters : List Char → List (List Char)
  | [] => []
  | c :: cs => clustersFrom (Cluster.Trail.start.next (.of c)) [c] cs

theorem clustersFrom_flatten (trail : Cluster.Trail) (cluster cs : List Char) :
    (clustersFrom trail cluster cs).flatten = cluster.reverse ++ cs := by
  induction cs generalizing trail cluster with
  | nil => simp [clustersFrom]
  | cons c cs ih =>
    simp only [clustersFrom]
    split <;> simp [ih]

/-- Nothing is lost between the clusters. -/
theorem clusters_flatten (cs : List Char) : (clusters cs).flatten = cs := by
  cases cs with
  | nil => rfl
  | cons c cs => simp [clusters, clustersFrom_flatten]

end BroadcastChat.Text
