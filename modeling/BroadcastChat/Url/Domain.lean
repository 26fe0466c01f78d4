/-
# Domain names

A domain name may be written in any script; its ASCII form is what the network
knows. The name's characters are folded and composed, and then every label that
is not in ASCII is written in Punycode behind `xn--`. A label may be written so
already; then what it stands for has to be folded and composed as it is, and to
need that form. Labels in ASCII stay as they are, but for capital letters.

Key definitions: `Domain.Entry`, `Domain.toAscii?`.
-/
import BroadcastChat.Text.Pieces
import BroadcastChat.Text.Punycode
import BroadcastChat.Url.Domain.Label

namespace BroadcastChat.Url.Domain

open Text

/-- The characters that no domain name may hold. -/
def isForbidden (c : Char) : Bool :=
  c.toNat ≤ 32 || c.toNat = 127 || "%#/:<>?@[\\]^|".toList.contains c

/-- Whether a character is in ASCII. -/
def isAscii (c : Char) : Bool := c.toNat < 128

/-- How long a text in Punycode may be that is read. -/
def maxRead : Nat := 2000

/-- How many characters a label may have that is written in Punycode. -/
def maxWritten : Nat := 1000

/-- The label that stands behind `xn--`. -/
def unpunycode? (cs : List Char) : Option (List Char) := do
  guard (cs.length ≤ maxRead)
  let label ← Punycode.decode? cs
  guard (cs.all isAscii && !label.all isAscii)
  guard (label.all Folding.isPlain && Composition.normalize label == label)
  return label

/-- The label that a folded and composed one stands for. -/
def labelOf? (cs : List Char) : Option (List Char) := do
  let label ← match cs with
    | 'x' :: 'n' :: '-' :: '-' :: rest => unpunycode? rest
    | cs => some cs
  guard (label.all fun c => !isForbidden c)
  guard (Label.isValid label)
  return label

/-- The ASCII form of a label, if it is not too long. -/
def asciiOf? (label : List Char) : Option (List Char) :=
  if label.all isAscii then some label
  else if label.length ≤ maxWritten then some ('x' :: 'n' :: '-' :: '-' :: Punycode.encode label)
  else none

/-- A label and its ASCII form. -/
structure Entry where
  label : List Char
  ascii : List Char
  deriving DecidableEq, Repr

namespace Entry

/-- The entry of a label that is folded and composed. -/
def ofFolded? (cs : List Char) : Option Entry := do
  let label ← labelOf? cs
  return ⟨label, ← asciiOf? label⟩

/-- The entry of a label that is written in small ASCII letters. -/
def ofAscii? (cs : List Char) : Option Entry := (labelOf? cs).map (⟨·, cs⟩)

/-- The entries of what stands between two points. Points in other scripts may part it into
several labels. -/
def ofWritten? (cs : List Char) : Option (List Entry) := do
  let folded := Composition.normalize (← Folding.folded? cs)
  if cs.all isAscii then return [← ofAscii? folded]
  (pieces (· == '.') folded).mapM ofFolded?

end Entry

/-- The ASCII form of a domain name, if it has one. -/
def toAscii? (name : String) : Option String := do
  let entries := (← (pieces (· == '.') name.toList).mapM Entry.ofWritten?).flatten
  let labels := entries.map Entry.label
  guard (!labels.any Label.runsLeft || labels.all Label.hasOneDirection)
  return ".".intercalate (entries.map fun entry => String.ofList entry.ascii)

end BroadcastChat.Url.Domain
