/-
# Labels of domain names

A label is what stands between two points. It may not start with a mark; the
two joiners may stand only where they make a difference; and in a domain name
with letters that run to the left, every label must run in one direction.

Key definitions: `Label.isValid`, `Label.runsLeft`, `Label.hasOneDirection`.
-/
import BroadcastChat.Text.Composition
import BroadcastChat.Url.Domain.Folding
import BroadcastChat.Url.Domain.LabelTable

namespace BroadcastChat.Url.Domain.Label

open Text

/-! ### Marks -/

/-- The ranges of marks. -/
def marks : List Table.Span := Table.spans LabelTable.marks

/-- Whether a label starts with a mark. -/
def startsWithMark (label : List Char) : Bool := label.head?.any (Table.covers marks)

/-! ### Joiners -/

/-- How a character joins its neighbours. -/
inductive Join where
  | none
  | behind
  | before
  | both
  /-- Others join through it. -/
  | through
  deriving DecidableEq, Repr

/-- The ranges of characters that join. -/
def joins : List Table.Span := Table.spans LabelTable.joins

/-- How a character joins its neighbours. -/
def join (c : Char) : Join :=
  match Table.valueOf joins c with
  | 1 => .behind
  | 2 => .before
  | 3 => .both
  | 4 => .through
  | _ => .none

/-- The sign that takes the vowel from a letter in Indic scripts has this rank. -/
def viramaRank : Nat := 9

/-- The next character that others do not join through. -/
def neighbour (cs : List Char) : Join :=
  ((cs.dropWhile fun c => join c = .through).head?.map join).getD .none

/-- Whether joiners stand where they may: behind a sign that takes the vowel, and the one that
separates also between two letters that would join. `before` is what stands before, last
character first. -/
def joinersFit (before : List Char) : List Char → Bool
  | [] => true
  | c :: rest =>
    let afterVirama := before.head?.any fun b => Composition.rank b = viramaRank
    let separates := (neighbour before = .behind || neighbour before = .both) &&
      (neighbour rest = .before || neighbour rest = .both)
    (if c = '\u200D' then afterVirama
      else if c = '\u200C' then afterVirama || separates
      else true) && joinersFit (c :: before) rest

/-! ### Directions -/

/-- How a character runs. -/
inductive Direction where
  | right
  | left
  | arabicDigit
  | digit
  | neutral
  | mark
  /-- It may not stand in a domain name with letters that run to the left. -/
  | other
  deriving DecidableEq, Repr

/-- The ranges of characters that do not simply run to the right. -/
def directions : List Table.Span := Table.spans LabelTable.directions

/-- How a character runs. -/
def direction (c : Char) : Direction :=
  match Table.valueOf directions c with
  | 0 => .right
  | 1 | 2 => .left
  | 3 => .arabicDigit
  | 4 => .digit
  | 5 | 6 | 7 | 8 | 9 => .neutral
  | 10 => .mark
  | _ => .other

/-- Whether a label holds something that runs to the left. -/
def runsLeft (label : List Char) : Bool :=
  label.any fun c => direction c = .left || direction c = .arabicDigit

/-- How the last character runs that is no mark. -/
def lastDirection (label : List Char) : Option Direction :=
  ((label.map direction).reverse.dropWhile (· = .mark)).head?

/-- Whether a label runs in one direction: to the right from a letter to a letter or digit, or to
the left from a letter to a letter or a digit of either kind, with digits of one kind only. -/
def hasOneDirection (label : List Char) : Bool :=
  let all := label.map direction
  match all.head? with
  | none => true
  | some .right =>
    all.all (fun d => d = .right || d = .digit || d = .neutral || d = .mark) &&
      (lastDirection label = some .right || lastDirection label = some .digit)
  | some .left =>
    all.all (fun d => d ≠ .right && d ≠ .other) &&
      (lastDirection label = some .left || lastDirection label = some .digit ||
        lastDirection label = some .arabicDigit) &&
      !(all.contains .digit && all.contains .arabicDigit)
  | some _ => false

/-! ### Labels -/

/-- Whether a label may stand in a domain name, as far as it goes without the others. -/
def isValid (label : List Char) : Bool := !startsWithMark label && joinersFit [] label

end BroadcastChat.Url.Domain.Label
