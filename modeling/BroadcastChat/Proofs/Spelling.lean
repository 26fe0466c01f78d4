/-
# How values are spelled

A printed value is a run of tokens wherever it stands, provided that no numeral
goes on behind it (`Spells`). Quoted texts, integers and objects are spelled
from the spellings of their parts, so what a printed record's tokens are is
read off the record. For a quoted text this goes through every class of
characters that writing escapes; for an integer through the digits of a word.

Key definitions: `Json.Closing`, `Json.Spells`.
Key theorems: `Json.Quoted.decode_escape`, `Json.Numeral.scan_integer`,
`Json.Spells.append`, `Json.spells_encode`, `Json.spells_integer`,
`Json.spells_object`, `Json.Spells.ofText_eq`.
-/
import Mathlib.Data.List.Basic
import BroadcastChat.Json.Printer
import BroadcastChat.Json.Token

namespace BroadcastChat.Json

open Text

/-! ### Quoted texts -/

namespace Quoted

/-- How a character is written: as one letter behind a backslash that stands for it, as the unit of
a control character, or as itself. -/
inductive Written (c : Char) : List Char → Prop
  | letter {e : Char} (he : letter? e = some c) (hu : e ≠ 'u') : Written c ['\\', e]
  | control (h : c.toNat < 32) : Written c
      ['\\', 'u', '0', '0', Hex.lower (c.toNat / 16), Hex.lower (c.toNat % 16)]
  | plain (hquote : c ≠ '"') (hbackslash : c ≠ '\\') (h : ¬c.toNat < 32) : Written c [c]

theorem written_escape (c : Char) : Written c (escape c) := by
  unfold escape
  by_cases hquote : c = '"'
  · subst hquote
    exact .letter (by decide) (by decide)
  by_cases hbackslash : c = '\\'
  · subst hbackslash
    exact .letter (by decide) (by decide)
  by_cases hbackspace : c = '\x08'
  · subst hbackspace
    exact .letter (by decide) (by decide)
  by_cases hfeed : c = '\x0c'
  · subst hfeed
    exact .letter (by decide) (by decide)
  by_cases hline : c = '\n'
  · subst hline
    exact .letter (by decide) (by decide)
  by_cases hreturn : c = '\r'
  · subst hreturn
    exact .letter (by decide) (by decide)
  by_cases htab : c = '\t'
  · subst htab
    exact .letter (by decide) (by decide)
  rw [if_neg hquote, if_neg hbackslash, if_neg hbackspace, if_neg hfeed, if_neg hline,
    if_neg hreturn, if_neg htab]
  by_cases hcontrol : c.toNat < 32
  · rw [if_pos hcontrol]
    exact .control hcontrol
  · rw [if_neg hcontrol]
    exact .plain hquote hbackslash hcontrol

theorem unit?_control {n : Nat} (h : n < 32) :
    unit? '0' '0' (Hex.lower (n / 16)) (Hex.lower (n % 16)) = some n := by
  have hall : ∀ m : Fin 32,
      unit? '0' '0' (Hex.lower (m.val / 16)) (Hex.lower (m.val % 16)) = some m.val := by
    decide
  exact hall ⟨n, h⟩

section

variable {a b c d e : Char} {unit : Nat} (read cs : List Char)

theorem decode_letter (he : letter? e = some c) (hu : e ≠ 'u') :
    decode read ('\\' :: e :: cs) = decode (c :: read) cs := by
  rw [decode.eq_def]
  simp [he, hu]

theorem decode_unit (hunit : unit? a b c d = some unit) (htrailing : isTrailing unit = false)
    (hleading : isLeading unit = false) :
    decode read ('\\' :: 'u' :: a :: b :: c :: d :: cs) = decode (Char.ofNat unit :: read) cs := by
  rw [decode.eq_def]
  simp [hunit, htrailing, hleading]

theorem decode_plain (hquote : c ≠ '"') (hbackslash : c ≠ '\\') (h : ¬c.toNat < 32) :
    decode read (c :: cs) = decode (c :: read) cs := by
  rw [decode.eq_def]
  simp only [if_neg hquote, if_neg hbackslash, if_neg h]

theorem pass_letter (he : letter? e = some c) (hu : e ≠ 'u') :
    pass ('\\' :: e :: cs) = pass cs := by
  rw [pass.eq_def]
  simp [he, hu]

theorem pass_unit (hunit : unit? a b c d = some unit) :
    pass ('\\' :: 'u' :: a :: b :: c :: d :: cs) = pass cs := by
  rw [pass.eq_def]
  simp [hunit]

theorem pass_plain (hquote : c ≠ '"') (hbackslash : c ≠ '\\') (h : ¬c.toNat < 32) :
    pass (c :: cs) = pass cs := by
  rw [pass.eq_def]
  simp only [if_neg hquote, if_neg hbackslash, if_neg h]

end

/-- **A written character is read back**, whatever class it is of. -/
theorem decode_escape (c : Char) (read cs : List Char) :
    decode read (escape c ++ cs) = decode (c :: read) cs := by
  have hwritten := written_escape c
  generalize escape c = written at hwritten
  cases hwritten with
  | letter he hu => exact decode_letter read cs he hu
  | control h =>
    have hunit := decode_unit read cs (unit?_control h) (by simp [isTrailing]; omega)
      (by simp [isLeading]; omega)
    rw [Char.ofNat_toNat] at hunit
    exact hunit
  | plain hquote hbackslash h => exact decode_plain read cs hquote hbackslash h

theorem pass_escape (c : Char) (cs : List Char) : pass (escape c ++ cs) = pass cs := by
  have hwritten := written_escape c
  generalize escape c = written at hwritten
  cases hwritten with
  | letter he hu => exact pass_letter cs he hu
  | control h => exact pass_unit cs (unit?_control h)
  | plain hquote hbackslash h => exact pass_plain cs hquote hbackslash h

theorem decode_flatMap_escape (text read cs : List Char) :
    decode read (text.flatMap escape ++ '"' :: cs) =
      .ok (String.ofList (read.reverse ++ text), cs) := by
  induction text generalizing read with
  | nil => simp [decode.eq_def]
  | cons c text ih =>
    rw [List.flatMap_cons, List.append_assoc, decode_escape, ih, List.reverse_cons,
      List.append_assoc, List.singleton_append]

theorem pass_flatMap_escape (text cs : List Char) :
    pass (text.flatMap escape ++ '"' :: cs) = .ok cs := by
  induction text with
  | nil => simp [pass.eq_def]
  | cons c text ih => rw [List.flatMap_cons, List.append_assoc, pass_escape, ih]

end Quoted

/-! ### Integers -/

/-- No numeral goes on with the first of these characters. -/
def Closing (cs : List Char) : Prop :=
  ∀ c ∈ cs.head?, c.isDigit = false ∧ c ≠ '.' ∧ c ≠ 'e' ∧ c ≠ 'E'

theorem closing_nil : Closing [] := nofun

theorem closing_cons {c : Char} {cs : List Char}
    (h : c.isDigit = false ∧ c ≠ '.' ∧ c ≠ 'e' ∧ c ≠ 'E') : Closing (c :: cs) := by
  intro d hd
  cases hd
  exact h

theorem Closing.append {cs ds : List Char} (h : Closing cs) (h' : Closing ds) :
    Closing (cs ++ ds) := by
  cases cs with
  | nil => exact h'
  | cons c cs => exact h

namespace Numeral

variable {cs rest : List Char}

/-- No digit stands first. -/
def NoDigit (cs : List Char) : Prop := ∀ c ∈ cs.head?, c.isDigit = false

theorem noDigit_of_closing (h : Closing rest) : NoDigit rest := fun c hc => (h c hc).1

theorem digits_of_noDigit (hcs : ∀ c ∈ cs, c.isDigit = true) (h : NoDigit rest) :
    digits (cs ++ rest) = (cs, rest) := by
  have hstop : rest.takeWhile Char.isDigit = [] ∧ rest.dropWhile Char.isDigit = rest := by
    cases rest with
    | nil => exact ⟨rfl, rfl⟩
    | cons c rest =>
      have hc : c.isDigit = false := h c rfl
      simp [hc]
  rw [digits, List.takeWhile_append_of_pos hcs, List.dropWhile_append_of_pos hcs, hstop.1, hstop.2,
    List.append_nil]

theorem scanFraction_of_closing (h : Closing rest) : scanFraction rest = .ok ([], rest) := by
  unfold scanFraction
  split
  · exact absurd rfl (h '.' rfl).2.1
  · rfl

theorem scanExponent_of_closing (h : Closing rest) : scanExponent rest = .ok (none, rest) := by
  unfold scanExponent
  split
  · rfl
  · rename_i c cs
    have hc := h c rfl
    rw [if_neg (by simp [hc.2.2.1, hc.2.2.2])]

/-- The digits of a number start with a zero only if that is all. -/
theorem head?_toDigits (n : Nat) (hn : n ≠ 0) : (Nat.toDigits 10 n).head? ≠ some '0' := by
  induction n using Nat.strongRecOn with
  | ind n ih =>
    rw [Nat.toDigits_eq_if (by decide)]
    split
    · rename_i hlt
      have hall : ∀ m : Fin 10, m.val ≠ 0 → [m.val.digitChar].head? ≠ some '0' := by decide
      exact hall ⟨n, hlt⟩ hn
    · rw [List.head?_append_of_ne_nil _ Nat.toDigits_ne_nil]
      exact ih (n / 10) (by omega) (by omega)

theorem scanWhole_toDigits (n : Nat) (h : Closing rest) :
    scanWhole (Nat.toDigits 10 n ++ rest) = .ok (Nat.toDigits 10 n, rest) := by
  have hdigits : digits (Nat.toDigits 10 n ++ rest) = (Nat.toDigits 10 n, rest) :=
    digits_of_noDigit (fun c hc => Nat.isDigit_of_mem_toDigits (by decide) (by decide) hc)
      (noDigit_of_closing h)
  unfold scanWhole
  rw [hdigits]
  split
  · rename_i hnil
    exact absurd (congrArg Prod.fst hnil) Nat.toDigits_ne_nil
  · rename_i hzero
    have hcons := congrArg Prod.fst hzero
    dsimp only at hcons
    by_cases hn : n = 0
    · rw [hn, Nat.toDigits_zero] at hcons
      cases hcons
    · exact absurd (congrArg List.head? hcons) (head?_toDigits n hn)
  · rename_i heq
    cases heq
    rfl

theorem scanUnsigned_toDigits (negative : Bool) (n : Nat) (h : Closing rest) :
    scanUnsigned negative (Nat.toDigits 10 n ++ rest) =
      .ok (⟨negative, Nat.toDigits 10 n, [], none⟩, rest) := by
  unfold scanUnsigned
  rw [scanWhole_toDigits n h]
  change (scanFraction rest >>= _) = _
  rw [scanFraction_of_closing h]
  change (scanExponent rest >>= _) = _
  rw [scanExponent_of_closing h]
  rfl

theorem le_ofDigitChars (cs : List Char) (value : Nat) : value ≤ Nat.ofDigitChars 10 cs value := by
  induction cs generalizing value with
  | nil => exact Nat.le_refl _
  | cons c cs ih =>
    rw [Nat.ofDigitChars_cons]
    exact Nat.le_trans (by omega) (ih _)

/-- Digits whose number a word holds are all taken. -/
theorem significand_of_le (cs : List Char) (value : Nat)
    (h : Nat.ofDigitChars 10 cs value ≤ Word.unsignedMax) :
    significand value cs = (Nat.ofDigitChars 10 cs value, 0) := by
  induction cs generalizing value with
  | nil => rfl
  | cons c cs ih =>
    have hvalue : value * 10 + digitValue c = 10 * value + (c.toNat - '0'.toNat) := by
      rw [Nat.mul_comm]
      rfl
    rw [Nat.ofDigitChars_cons, ← hvalue] at h ⊢
    rw [significand, if_pos (Nat.le_trans (le_ofDigitChars cs _) h), ih _ h]

theorem number_toDigits (negative : Bool) (n : Nat) (hn : n ≤ Word.unsignedMax)
    (hnegative : negative = true → n ≠ 0 ∧ n ≤ Word.signedMin.natAbs) :
    number ⟨negative, Nat.toDigits 10 n, [], none⟩ =
      .integer (if negative then -(n : Int) else n) := by
  have hsignificand : significand 0 (Nat.toDigits 10 n) = (n, 0) := by
    have hvalue := Nat.ofDigitChars_ten_toDigits (n := n)
    rw [significand_of_le _ _ (Nat.le_trans (Nat.le_of_eq hvalue) hn), hvalue]
  unfold number
  rw [hsignificand]
  refine if_pos ⟨rfl, rfl, rfl, fun hzero => ?_, fun hlow => ?_⟩
  · exact (hnegative hzero.1).1 hzero.2
  · exact absurd hlow.2 (Nat.not_lt.2 (hnegative hlow.1).2)

theorem toList_toString_ofNat (n : Nat) :
    (toString (Int.ofNat n)).toList = Nat.toDigits 10 n := Nat.toList_repr

theorem toList_toString_negSucc (n : Nat) :
    (toString (Int.negSucc n)).toList = '-' :: Nat.toDigits 10 (n + 1) := by
  change ("-" ++ (n + 1).repr).toList = _
  rw [String.toList_append, Nat.toList_repr]
  rfl

/-- A number's digits stand behind a first one. -/
theorem exists_toDigits (n : Nat) :
    ∃ c cs, Nat.toDigits 10 n = c :: cs ∧ c.isDigit = true := by
  obtain ⟨c, cs, hcons⟩ := List.exists_cons_of_ne_nil (Nat.toDigits_ne_nil (b := 10) (n := n))
  refine ⟨c, cs, hcons, Nat.isDigit_of_mem_toDigits (b := 10) (n := n) (by decide) (by decide) ?_⟩
  rw [hcons]
  exact List.mem_cons_self

/-- A printed integer starts as a numeral does. -/
theorem exists_first (i : Int) :
    ∃ c cs, (toString i).toList = c :: cs ∧ (c = '-' ∨ c.isDigit = true) := by
  cases i with
  | ofNat n =>
    obtain ⟨c, cs, hcons, hdigit⟩ := exists_toDigits n
    exact ⟨c, cs, (toList_toString_ofNat n).trans hcons, .inr hdigit⟩
  | negSucc n => exact ⟨'-', _, toList_toString_negSucc n, .inl rfl⟩

/-- **A printed integer is scanned as the numeral that denotes it.** -/
theorem scan_integer {i : Int} (hlow : Word.signedMin ≤ i) (hhigh : i ≤ Word.unsignedMax)
    (h : Closing rest) :
    ∃ numeral, scan ((toString i).toList ++ rest) = .ok (numeral, rest) ∧
      numeral.number = .integer i := by
  cases i with
  | ofNat n =>
    refine ⟨_, ?_, number_toDigits false n (Int.ofNat_le.1 hhigh) nofun⟩
    rw [toList_toString_ofNat, ← scanUnsigned_toDigits false n h]
    obtain ⟨c, cs, hcons, hdigit⟩ := exists_toDigits n
    rw [hcons, List.cons_append, scan]
    rintro cs' heq
    cases heq
    cases hdigit
  | negSucc n =>
    have hn : n + 1 ≤ Word.signedMin.natAbs := by
      have hbound : Word.signedMin = -9223372036854775808 := rfl
      omega
    refine ⟨_, ?_, number_toDigits true (n + 1) (Nat.le_trans hn (by decide))
      fun _ => ⟨Nat.succ_ne_zero n, hn⟩⟩
    rw [toList_toString_negSucc, ← scanUnsigned_toDigits true (n + 1) h]
    rfl

end Numeral

/-! ### Tokens -/

namespace Token

theorem collect_of_next? {cs rest : List Char} {token : Token} (before : List Token)
    (h : next? cs = some (token, rest)) : collect before cs = collect (token :: before) rest := by
  rw [collect.eq_def]
  split
  · rename_i hnone
    rw [h] at hnone
    cases hnone
  · rename_i hsome
    rw [h] at hsome
    cases hsome
    rfl

theorem next?_cons {c : Char} {cs : List Char} (h : isBlank c = false) :
    next? (c :: cs) = some (startingWith c cs) := by
  rw [next?, List.dropWhile_cons_of_neg (by simp [h])]

theorem startingWith_punctuation {c : Char} {token : Token} (h : punctuation? c = some token)
    (cs : List Char) : startingWith c cs = (token, cs) := by
  have hquote : c ≠ '"' := by
    rintro rfl
    cases h
  rw [startingWith, if_neg hquote, h]

theorem startingWith_numeral {c : Char} (h : c = '-' ∨ c.isDigit = true) (cs : List Char) :
    startingWith c cs = ofNumeral (c :: cs) := by
  have hne : ∀ d : Char, d ≠ '-' → d.isDigit = false → c ≠ d := by
    rintro d hminus hdigit rfl
    rcases h with h | h
    · exact hminus h
    · rw [hdigit] at h
      cases h
  have hpunctuation : punctuation? c = none := by
    simp [punctuation?, hne]
  have hword : word? c = none := by
    simp [word?, hne]
  rw [startingWith, if_neg (hne '"' (by decide) (by decide)), hpunctuation, hword]
  exact if_pos h

theorem ofQuoted_escape (text : String) (cs : List Char) :
    ofQuoted (text.toList.flatMap Quoted.escape ++ '"' :: cs) =
      (.text (some text), cs) := by
  rw [ofQuoted, Quoted.pass_flatMap_escape, Quoted.decode_flatMap_escape, List.reverse_nil,
    List.nil_append, String.ofList_toList]

end Token

/-! ### Spellings -/

/-- Wherever no numeral goes on behind these characters, they are these tokens. -/
def Spells (cs : List Char) (ts : List Token) : Prop :=
  ∀ before rest, Closing rest →
    Token.collect before (cs ++ rest) = Token.collect (ts.reverse ++ before) rest

section

variable {cs ds : List Char} {ts us : List Token}

theorem Spells.append (h : Spells cs ts) (hclosing : Closing ds) (h' : Spells ds us) :
    Spells (cs ++ ds) (ts ++ us) := by
  intro before rest hrest
  rw [List.append_assoc, h _ _ (hclosing.append hrest), h' _ _ hrest, List.reverse_append,
    List.append_assoc]

/-- Behind a token of one character anything may stand. -/
theorem Spells.punctuated {c : Char} {token : Token} (hblank : Token.isBlank c = false)
    (hc : Token.punctuation? c = some token) (h : Spells cs ts) :
    Spells (c :: cs) (token :: ts) := by
  intro before rest hrest
  have hnext : Token.next? (c :: (cs ++ rest)) = some (token, cs ++ rest) := by
    rw [Token.next?_cons hblank, Token.startingWith_punctuation hc]
  rw [List.cons_append, Token.collect_of_next? _ hnext, h _ _ hrest, List.reverse_cons,
    List.append_assoc, List.singleton_append]

theorem spells_nil : Spells [] [] := fun _ _ _ => rfl

theorem spells_encode (text : String) :
    Spells (Quoted.encode text).toList [.text (some text)] := by
  intro before rest _
  refine Token.collect_of_next? before ?_
  rw [Quoted.encode, String.toList_ofList, List.append_assoc]
  change Token.next? ('"' :: (text.toList.flatMap Quoted.escape ++ '"' :: rest)) = _
  rw [Token.next?_cons (by decide), Token.startingWith, if_pos rfl, Token.ofQuoted_escape]

/-- A numeral does not start with a blank. -/
theorem Token.not_blank_of_first {c : Char} (h : c = '-' ∨ c.isDigit = true) :
    Token.isBlank c = false := by
  rcases h with rfl | hdigit
  · decide
  · rw [Bool.eq_false_iff]
    intro hblank
    simp only [Token.isBlank, Bool.or_eq_true, beq_iff_eq] at hblank
    rcases hblank with ((rfl | rfl) | rfl) | rfl <;> cases hdigit

theorem spells_integer {i : Int} (hlow : Word.signedMin ≤ i) (hhigh : i ≤ Word.unsignedMax) :
    Spells (toString i).toList [.number (.integer i)] := by
  intro before rest hrest
  refine Token.collect_of_next? before ?_
  obtain ⟨numeral, hscan, hnumber⟩ := Numeral.scan_integer hlow hhigh hrest
  obtain ⟨c, tail, htext, hc⟩ := Numeral.exists_first i
  rw [htext] at hscan ⊢
  rw [List.cons_append, Token.next?_cons (Token.not_blank_of_first hc),
    Token.startingWith_numeral hc, Token.ofNumeral]
  rw [← List.cons_append, hscan, ← hnumber]

theorem Spells.ofText_eq {source : String} (h : Spells source.toList ts) :
    Token.ofText source = ts := by
  have hall := h [] [] closing_nil
  rw [List.append_nil, List.append_nil] at hall
  rw [Token.ofText, hall, Token.collect.eq_def]
  exact List.reverse_reverse ts

/-! ### Objects -/

/-- Texts with a comma between each two are spelled with a comma between each two spellings. -/
theorem spells_joined {parts : List (String × List Token)}
    (h : ∀ part ∈ parts, Spells part.1.toList part.2) :
    Spells (",".intercalate (parts.map Prod.fst)).toList
      ([Token.comma].intercalate (parts.map Prod.snd)) := by
  rw [String.toList_intercalate]
  induction parts with
  | nil => exact spells_nil
  | cons part parts ih =>
    have hpart := h part List.mem_cons_self
    cases parts with
    | nil => simpa only [List.map_cons, List.map_nil, List.intercalate_singleton] using hpart
    | cons next parts =>
      have hrest := ih fun part hmem => h part (List.mem_cons_of_mem _ hmem)
      simp only [List.map_cons, List.intercalate_cons_cons] at hrest ⊢
      rw [List.append_assoc, List.append_assoc]
      exact hpart.append (closing_cons (by decide)) (hrest.punctuated (by decide) rfl)

/-- A member of an object is spelled by its key and its value. -/
theorem spells_member {value : String} (key : String) (h : Spells value.toList ts) :
    Spells (member key value).toList (.text (some key) :: .colon :: ts) := by
  rw [member, String.toList_append, String.toList_append, List.append_assoc]
  exact (spells_encode key).append (closing_cons (by decide)) (h.punctuated (by decide) rfl)

/-- The tokens of an object with these members. -/
def objectTokens (members : List (String × List Token)) : List Token :=
  .openObject :: [.comma].intercalate
    (members.map fun (key, ts) => .text (some key) :: .colon :: ts) ++ [.closeObject]

/-- **An object is spelled member by member**, from printed values and what spells them. -/
theorem spells_object (members : List (String × String × List Token))
    (h : ∀ m ∈ members, Spells m.2.1.toList m.2.2) :
    Spells (object (members.map fun m => (m.1, m.2.1))).toList
      (objectTokens (members.map fun m => (m.1, m.2.2))) := by
  have hjoined : ∀ part ∈ members.map fun m : String × String × List Token =>
      (member m.1 m.2.1, Token.text (some m.1) :: .colon :: m.2.2),
      Spells part.1.toList part.2 := by
    intro part hpart
    obtain ⟨m, hm, rfl⟩ := List.mem_map.1 hpart
    exact spells_member m.1 (h m hm)
  have hend : Spells ['\x7d'] [.closeObject] := spells_nil.punctuated (by decide) rfl
  have hinner := (spells_joined hjoined).append (closing_cons (by decide)) hend
  rw [List.map_map, List.map_map] at hinner
  rw [object, objectTokens, String.toList_append, String.toList_append, List.map_map, List.map_map,
    List.append_assoc]
  exact hinner.punctuated (by decide) rfl

end

end BroadcastChat.Json
