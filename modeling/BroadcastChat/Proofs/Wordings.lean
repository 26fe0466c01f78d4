/-
# All the ways to write a JSON text

Printing is one way to write a JSON value, and others come in as well: blanks
between the tokens, and in a quoted text any character as itself, by a letter
behind a backslash, by its code point, or as a surrogate pair. Which texts write
which tokens is said here without the reader (`Wording`), and the reader takes
every wording for what it writes. However it is written, a character is one
character of what is read, and takes at most twelve characters to write.

Key definitions: `Json.Quoted.Denotes`, `Text.Spelled`, `Json.Wording`,
`Json.Token.span`, `Json.SaysObject`.
Key theorems: `Json.Quoted.decode_denotes`, `Json.Wording.ofText_eq`,
`Json.Wording.length_le`, `Json.Reader.Reads.read_wording`,
`Json.Reader.reads_object₂`.
-/
import Mathlib.Algebra.GroupWithZero.Nat
import Mathlib.Data.List.Forall2
import Mathlib.Data.List.Permutation
import BroadcastChat.Proofs.Readback

namespace BroadcastChat

/-- What is written are pieces one after the other, each of which denotes one of what is meant. -/
def Text.Spelled {α β : Type} (denotes : List α → β → Prop) (written : List α) (meant : List β) :
    Prop :=
  ∃ pieces, List.Forall₂ denotes pieces meant ∧ written = pieces.flatten

namespace Json

open Text

/-! ### Quoted texts -/

namespace Quoted

/-- The ways to write a character between quotes. -/
inductive Denotes : List Char → Char → Prop
  | plain {x : Char} (hquote : x ≠ '"') (hbackslash : x ≠ '\\') (h : ¬x.toNat < 32) : Denotes [x] x
  /-- One letter that stands for it. -/
  | letter {e x : Char} (h : letter? e = some x) : Denotes ['\\', e] x
  /-- The four digits of its code point. -/
  | unit {a b c d x : Char} (h : unit? a b c d = some x.toNat) :
    Denotes ['\\', 'u', a, b, c, d] x
  /-- The four digits of each half of a surrogate pair. -/
  | pair {a b c d a' b' c' d' x : Char} {leading trailing : Nat}
    (hleading : unit? a b c d = some leading) (htrailing : unit? a' b' c' d' = some trailing)
    (hfirst : isLeading leading = true) (hsecond : isTrailing trailing = true)
    (h : x.toNat = 0x10000 + (leading - 0xD800) * 0x400 + (trailing - 0xDC00)) :
    Denotes ['\\', 'u', a, b, c, d, '\\', 'u', a', b', c', d'] x

section

variable {a b c d a' b' c' d' : Char} {leading trailing : Nat} (read cs : List Char)

theorem decode_pair (hleading : unit? a b c d = some leading)
    (htrailing : unit? a' b' c' d' = some trailing) (hfirst : isLeading leading = true)
    (hsecond : isTrailing trailing = true) :
    decode read ('\\' :: 'u' :: a :: b :: c :: d :: '\\' :: 'u' :: a' :: b' :: c' :: d' :: cs) =
      decode (pair leading trailing :: read) cs := by
  have hnot : isTrailing leading = false := by
    simp only [isLeading, Bool.and_eq_true, decide_eq_true_eq] at hfirst
    simp only [isTrailing, Bool.and_eq_false_iff, decide_eq_false_iff_not]
    omega
  rw [decode.eq_def]
  simp [hleading, htrailing, hfirst, hsecond, hnot]

theorem pass_pair (hleading : unit? a b c d = some leading)
    (htrailing : unit? a' b' c' d' = some trailing) :
    pass ('\\' :: 'u' :: a :: b :: c :: d :: '\\' :: 'u' :: a' :: b' :: c' :: d' :: cs) =
      pass cs := by
  rw [pass_unit _ hleading, pass_unit _ htrailing]

end

/-- A character is no half of a surrogate pair. -/
theorem not_surrogate (x : Char) : isTrailing x.toNat = false ∧ isLeading x.toNat = false := by
  have hvalid : x.toNat < 0xD800 ∨ 0xDFFF < x.toNat ∧ x.toNat < 0x110000 := x.valid
  simp only [isTrailing, isLeading, Bool.and_eq_false_iff, decide_eq_false_iff_not]
  omega

theorem ne_of_letter {e x : Char} (h : letter? e = some x) : e ≠ 'u' := by
  rintro rfl
  cases h

variable {piece : List Char} {x : Char}

/-- **A character is read whichever way it is written.** -/
theorem decode_denotes (h : Denotes piece x) (read cs : List Char) :
    decode read (piece ++ cs) = decode (x :: read) cs := by
  cases h with
  | plain hquote hbackslash h => exact decode_plain read cs hquote hbackslash h
  | letter h => exact decode_letter read cs h (ne_of_letter h)
  | unit h =>
    have hunit := decode_unit read cs h (not_surrogate x).1 (not_surrogate x).2
    rwa [Char.ofNat_toNat] at hunit
  | pair hleading htrailing hfirst hsecond h =>
    have hpair := decode_pair read cs hleading htrailing hfirst hsecond
    rwa [pair, ← h, Char.ofNat_toNat] at hpair

theorem pass_denotes (h : Denotes piece x) (cs : List Char) : pass (piece ++ cs) = pass cs := by
  cases h with
  | plain hquote hbackslash h => exact pass_plain cs hquote hbackslash h
  | letter h => exact pass_letter cs h (ne_of_letter h)
  | unit h => exact pass_unit cs h
  | pair hleading htrailing hfirst hsecond h => exact pass_pair cs hleading htrailing

theorem length_denotes (h : Denotes piece x) : piece.length ≤ 12 := by
  cases h <;> simp

variable {written text : List Char}

theorem decode_spelled (h : Spelled Denotes written text) (read cs : List Char) :
    decode read (written ++ '"' :: cs) = .ok (String.ofList (read.reverse ++ text), cs) := by
  obtain ⟨pieces, hpieces, rfl⟩ := h
  induction hpieces generalizing read with
  | nil => simp [decode.eq_def]
  | cons hpiece hrest ih =>
    rw [List.flatten_cons, List.append_assoc, decode_denotes hpiece, ih, List.reverse_cons,
      List.append_assoc, List.singleton_append]

theorem pass_spelled (h : Spelled Denotes written text) (cs : List Char) :
    pass (written ++ '"' :: cs) = .ok cs := by
  obtain ⟨pieces, hpieces, rfl⟩ := h
  induction hpieces with
  | nil => simp [pass.eq_def]
  | cons hpiece hrest ih => rw [List.flatten_cons, List.append_assoc, pass_denotes hpiece, ih]

theorem length_spelled (h : Spelled Denotes written text) : written.length ≤ 12 * text.length := by
  obtain ⟨pieces, hpieces, rfl⟩ := h
  induction hpieces with
  | nil => exact Nat.le_refl _
  | cons hpiece hrest ih =>
    have hfirst := length_denotes hpiece
    rw [List.flatten_cons, List.length_append, List.length_cons]
    omega

/-- What is printed is one of the ways to write a text. -/
theorem spelled_escape (text : List Char) : Spelled Denotes (text.flatMap escape) text := by
  refine ⟨text.map escape, ?_, by rw [List.flatMap_def]⟩
  refine List.forall₂_map_left_iff.2 (List.forall₂_same.2 fun c _ => ?_)
  have hwritten := written_escape c
  generalize escape c = written at hwritten
  cases hwritten with
  | letter he hu => exact .letter he
  | control h => exact .unit (unit?_control h)
  | plain hquote hbackslash h => exact .plain hquote hbackslash h

end Quoted

/-! ### Whole texts -/

/-- How these tokens may be written, with so many blanks before, between and behind them. -/
inductive Wording : Nat → List Char → List Token → Prop
  | nil : Wording 0 [] []
  | blank {blanks : Nat} {c : Char} {cs : List Char} {ts : List Token}
    (h : Token.isBlank c = true) (rest : Wording blanks cs ts) : Wording (blanks + 1) (c :: cs) ts
  | punctuation {blanks : Nat} {c : Char} {token : Token} {cs : List Char} {ts : List Token}
    (h : Token.punctuation? c = some token) (rest : Wording blanks cs ts) :
    Wording blanks (c :: cs) (token :: ts)
  | quoted {blanks : Nat} {text : String} {written cs : List Char} {ts : List Token}
    (h : Spelled Quoted.Denotes written text.toList) (rest : Wording blanks cs ts) :
    Wording blanks ('"' :: (written ++ '"' :: cs)) (.text (some text) :: ts)
  /-- No numeral goes on behind the integer. -/
  | integer {blanks : Nat} {value : Int} {cs : List Char} {ts : List Token}
    (hlow : Word.signedMin ≤ value) (hhigh : value ≤ Word.unsignedMax) (h : Closing cs)
    (rest : Wording blanks cs ts) :
    Wording blanks ((toString value).toList ++ cs) (.number (.integer value) :: ts)

namespace Token

theorem collect_of_none {cs : List Char} (before : List Token) (h : next? cs = none) :
    collect before cs = before.reverse := by
  rw [collect.eq_def]
  split
  · rfl
  · rename_i hsome
    rw [h] at hsome
    cases hsome

/-- A blank before a token vanishes. -/
theorem collect_blank {c : Char} (h : isBlank c = true) (before : List Token) (cs : List Char) :
    collect before (c :: cs) = collect before cs := by
  have hnext : next? (c :: cs) = next? cs := by
    rw [next?, List.dropWhile_cons_of_pos h, next?]
  cases hcs : next? cs with
  | none =>
    rw [hcs] at hnext
    rw [collect_of_none before hnext, collect_of_none before hcs]
  | some pair =>
    rw [hcs] at hnext
    rw [collect_of_next? before hnext, collect_of_next? before hcs]

theorem not_blank_of_punctuation {c : Char} {token : Token} (h : punctuation? c = some token) :
    isBlank c = false := by
  rw [Bool.eq_false_iff]
  intro hblank
  simp only [isBlank, Bool.or_eq_true, beq_iff_eq] at hblank
  rcases hblank with ((rfl | rfl) | rfl) | rfl <;> cases h

/-- At most so many characters write a token. -/
def span : Token → Nat
  | .text (some value) => 12 * value.length + 2
  | .number (.integer value) => (toString value).length
  | _ => 1

theorem span_of_punctuation {c : Char} {token : Token} (h : punctuation? c = some token) :
    token.span = 1 := by
  unfold punctuation? at h
  split_ifs at h <;> cases h <;> rfl

end Token

namespace Wording

variable {blanks : Nat} {cs : List Char} {ts : List Token}

theorem collect (h : Wording blanks cs ts) (before : List Token) :
    Token.collect before cs = before.reverse ++ ts := by
  induction h generalizing before with
  | nil => rw [Token.collect_of_none before rfl, List.append_nil]
  | blank h _ ih => rw [Token.collect_blank h, ih]
  | @punctuation blanks c token cs ts h _ ih =>
    have hnext : Token.next? (c :: cs) = some (token, cs) := by
      rw [Token.next?_cons (Token.not_blank_of_punctuation h), Token.startingWith_punctuation h]
    rw [Token.collect_of_next? _ hnext, ih, List.reverse_cons, List.append_assoc,
      List.singleton_append]
  | @quoted blanks text written cs ts h _ ih =>
    have hnext : Token.next? ('"' :: (written ++ '"' :: cs)) = some (.text (some text), cs) := by
      rw [Token.next?_cons (by decide), Token.startingWith, if_pos rfl, Token.ofQuoted,
        Quoted.pass_spelled h, Quoted.decode_spelled h]
      simp
    rw [Token.collect_of_next? _ hnext, ih, List.reverse_cons, List.append_assoc,
      List.singleton_append]
  | @integer blanks value cs ts hlow hhigh h _ ih =>
    rw [spells_integer hlow hhigh before cs h, List.reverse_singleton, List.singleton_append, ih,
      List.reverse_cons, List.append_assoc, List.singleton_append]

/-- **A text that writes tokens is read as these tokens.** -/
theorem ofText_eq {source : String} (h : Wording blanks source.toList ts) :
    Token.ofText source = ts :=
  (h.collect []).trans (List.nil_append ts)

/-- A wording is as long at most as its blanks and its tokens make it. -/
theorem length_le (h : Wording blanks cs ts) : cs.length ≤ blanks + (ts.map Token.span).sum := by
  induction h with
  | nil => exact Nat.le_refl _
  | blank h _ ih =>
    rw [List.length_cons]
    omega
  | @punctuation blanks c token cs ts h _ ih =>
    rw [List.length_cons, List.map_cons, List.sum_cons, Token.span_of_punctuation h]
    omega
  | @quoted blanks text written cs ts h _ ih =>
    have hlength := Quoted.length_spelled h
    rw [String.length_toList] at hlength
    simp only [List.length_cons, List.length_append, List.map_cons, List.sum_cons, Token.span]
    omega
  | integer hlow hhigh h _ ih =>
    rw [List.length_append, String.length_toList, List.map_cons, List.sum_cons, Token.span]
    omega

end Wording

/-! ### Objects -/

/-- Tokens of an object with these members, in any order. -/
def SaysObject (members : List (String × List Token)) (ts : List Token) : Prop :=
  ∃ order, order.Perm members ∧ ts = objectTokens order

theorem span_object {k l : String} {ts us said : List Token}
    (h : SaysObject [(k, ts), (l, us)] said) :
    (said.map Token.span).sum =
      12 * k.length + (ts.map Token.span).sum + 12 * l.length + (us.map Token.span).sum + 9 := by
  obtain ⟨order, horder, rfl⟩ := h
  rcases List.perm_pair.1 horder with rfl | rfl
  all_goals
    simp only [objectTokens, List.intercalate_cons_cons, List.intercalate_singleton, List.map_cons,
      List.map_nil, List.map_append, List.sum_cons, List.sum_nil, List.sum_append, Token.span,
      List.cons_append]
    omega

namespace Reader

variable {α β : Type} {reader : Reader α} {ts us : List Token} {a : α} {b : β} {blanks : Nat}

/-- **A value is read out of every wording of its tokens.** -/
theorem Reads.read_wording (h : Reads reader ts a) {source : String}
    (hwording : Wording blanks source.toList ts) : reader.read source = .ok a :=
  h.read_tokens hwording.ofText_eq

theorem reads_swapped {f : Field α} {g : Field β} (hkeys : g.key ≠ f.key)
    (hf : Reads f.reader ts a) (hg : Reads g.reader us b) :
    Reads (record₂ f g) (objectTokens [(g.key, us), (f.key, ts)]) (a, b) := by
  intro rest
  have hfirst : slot₂ f g g.key (none, none) =
      .ok (g.reader.map fun b => (none, some b)) := by
    rw [slot₂, if_neg hkeys, if_pos rfl]
    rfl
  have hsecond : slot₂ f g f.key (none, some b) =
      .ok (f.reader.map fun a => (some a, some b)) := if_pos rfl
  have hmembers : members (slot₂ f g) (none, none)
      (.text (some g.key) :: .colon :: us ++
        .comma :: (.text (some f.key) :: .colon :: ts ++ .closeObject :: rest)) =
      .ok ((some a, some b), rest) := by
    rw [members_member hfirst (hg.map _)]
    exact members_member hsecond (hf.map _) _
  have htokens : objectTokens [(g.key, us), (f.key, ts)] ++ rest =
      .openObject :: (.text (some g.key) :: .colon :: us ++
        .comma :: (.text (some f.key) :: .colon :: ts ++ .closeObject :: rest)) := by
    simp [objectTokens, List.intercalate_cons_cons]
  rw [htokens]
  change (members (slot₂ f g) (none, none) (.text (some g.key) :: .colon :: us ++ _) >>= _) = _
  rw [hmembers]
  rfl

/-- **A record's fields are read from an object in whichever order they stand.** -/
theorem reads_object₂ {f : Field α} {g : Field β} {said : List Token}
    (hkeys : g.key ≠ f.key) (hf : Reads f.reader ts a) (hg : Reads g.reader us b)
    (h : SaysObject [(f.key, ts), (g.key, us)] said) : Reads (record₂ f g) said (a, b) := by
  obtain ⟨order, horder, rfl⟩ := h
  rcases List.perm_pair.1 horder with rfl | rfl
  · exact reads_record₂ hkeys hf hg
  · exact reads_swapped hkeys hf hg

end Reader

end Json

end BroadcastChat
