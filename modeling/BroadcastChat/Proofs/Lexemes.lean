/-
# The lexical grammar of JSON

Which characters are a token, said without the scanners: a quoted text is a run
of pieces up to its closing quote, a numeral has a whole part without a leading
zero and perhaps a fraction and an exponent, and a few characters and three
words are tokens of their own. A text writes tokens if it is their lexemes one
after the other with blanks between them (`Writing`). The scanners meet that
grammar both ways: what it allows is scanned as the tokens it writes, and a text
in which the scanners find no broken token is one that it allows.

Key definitions: `Json.Quoted.Proper`, `Json.Numeral.Writes`, `Json.Lexeme`,
`Json.Writing`.
Key theorems: `Json.Quoted.spelled_of_decode`, `Json.Numeral.scan_of_writes`,
`Json.Numeral.writes_of_scan`, `Json.Writing.ofText_eq`, `Json.writing_iff`.
-/
import BroadcastChat.Proofs.Wordings

namespace BroadcastChat

theorem Text.Hex.numberIn?_lt {radix : Nat} {cs : List Char} {value : Nat}
    (h : numberIn? radix cs = some value) : value < radix ^ cs.length := by
  -- the digits so far are a number of their own, which the rest may only scale up
  have hscaled : ∀ start : Nat,
      (cs.foldlM (fun acc c => ((value? c).filter (· < radix)).map fun d => acc * radix + d)
        start) = some value → value < (start + 1) * radix ^ cs.length := by
    clear h
    induction cs with
    | nil =>
      intro start h
      cases h
      simp
    | cons c cs ih =>
      intro start h
      rw [List.foldlM_cons, Option.bind_eq_bind, Option.bind_eq_some_iff] at h
      obtain ⟨next, hnext, h⟩ := h
      obtain ⟨digit, hdigit, rfl⟩ := Option.map_eq_some_iff.1 hnext
      have hlt : digit < radix := by
        simpa using (Option.filter_eq_some_iff.1 hdigit).2
      calc value < (start * radix + digit + 1) * radix ^ cs.length := ih _ h
        _ ≤ ((start + 1) * radix) * radix ^ cs.length := by
          refine Nat.mul_le_mul_right _ ?_
          rw [Nat.succ_mul]
          omega
        _ = (start + 1) * radix ^ (c :: cs).length := by
          rw [List.length_cons, Nat.pow_succ', Nat.mul_assoc]
  simpa using hscaled 0 h

theorem Text.Spelled.cons {α β : Type} {denotes : List α → β → Prop} {piece written : List α}
    {b : β} {meant : List β} (hpiece : denotes piece b) (h : Spelled denotes written meant) :
    Spelled denotes (piece ++ written) (b :: meant) := by
  obtain ⟨pieces, hpieces, rfl⟩ := h
  exact ⟨piece :: pieces, .cons hpiece hpieces, rfl⟩

namespace Json

open Text

/-! ### Quoted texts -/

namespace Quoted

/-- What may stand between quotes: characters as themselves, letters behind a backslash, and units,
whether or not these denote a character. -/
inductive Proper : List Char → Prop
  | nil : Proper []
  | plain {x : Char} {cs : List Char} (hquote : x ≠ '"') (hbackslash : x ≠ '\\')
    (h : ¬x.toNat < 32) (rest : Proper cs) : Proper (x :: cs)
  | letter {e x : Char} {cs : List Char} (h : letter? e = some x) (rest : Proper cs) :
    Proper ('\\' :: e :: cs)
  | unit {a b c d : Char} {value : Nat} {cs : List Char} (h : unit? a b c d = some value)
    (rest : Proper cs) : Proper ('\\' :: 'u' :: a :: b :: c :: d :: cs)

variable {written text read cs rest : List Char}

theorem pass_of_proper (h : Proper written) (rest : List Char) :
    pass (written ++ '"' :: rest) = .ok rest := by
  induction h with
  | nil => simp [pass.eq_def]
  | plain hquote hbackslash h _ ih => exact (pass_plain _ hquote hbackslash h).trans ih
  | letter h _ ih => exact (pass_letter _ h (ne_of_letter h)).trans ih
  | unit h _ ih => exact (pass_unit _ h).trans ih

theorem proper_of_pass (h : pass cs = .ok rest) :
    ∃ written, Proper written ∧ cs = written ++ '"' :: rest := by
  fun_induction pass cs with
  | case2 =>
    cases h
    exact ⟨[], .nil, rfl⟩
  | case5 a b c d tail value hunit hbackslash ih =>
    obtain ⟨written, hproper, rfl⟩ := ih h
    exact ⟨_, .unit hunit hproper, rfl⟩
  | case8 e tail _ _ x hletter hbackslash ih =>
    obtain ⟨written, hproper, rfl⟩ := ih h
    exact ⟨_, .letter hletter hproper, rfl⟩
  | case10 x tail hquote hbackslash hcontrol ih =>
    obtain ⟨written, hproper, rfl⟩ := ih h
    exact ⟨_, .plain hquote hbackslash hcontrol hproper, rfl⟩
  | _ => cases h

/-- Four hexadecimal digits denote a 16-bit number. -/
theorem unit?_lt {a b c d : Char} {value : Nat} (h : unit? a b c d = some value) :
    value < 0x10000 := by
  have hlt := Hex.numberIn?_lt h
  simpa using hlt

theorem toNat_ofNat {value : Nat} (h : value.isValidChar) : (Char.ofNat value).toNat = value := by
  rw [Char.ofNat, dif_pos h]
  rfl

/-- A unit that is no half of a surrogate pair denotes its character. -/
theorem denotes_unit {a b c d : Char} {value : Nat} (h : unit? a b c d = some value)
    (htrailing : ¬isTrailing value = true) (hleading : ¬isLeading value = true) :
    Denotes ['\\', 'u', a, b, c, d] (Char.ofNat value) := by
  have hlt := unit?_lt h
  simp only [isTrailing, isLeading, Bool.and_eq_true, decide_eq_true_eq] at htrailing hleading
  have hvalid : value.isValidChar := by
    simp only [Nat.isValidChar]
    omega
  refine .unit ?_
  rw [toNat_ofNat hvalid, h]

/-- The two halves of a surrogate pair denote its character. -/
theorem denotes_pair {a b c d a' b' c' d' : Char} {leading trailing : Nat}
    (h : unit? a b c d = some leading) (h' : unit? a' b' c' d' = some trailing)
    (hleading : isLeading leading = true) (htrailing : isTrailing trailing = true) :
    Denotes ['\\', 'u', a, b, c, d, '\\', 'u', a', b', c', d'] (pair leading trailing) := by
  refine .pair h h' hleading htrailing ?_
  simp only [isTrailing, isLeading, Bool.and_eq_true, decide_eq_true_eq] at htrailing hleading
  rw [pair, toNat_ofNat]
  simp only [Nat.isValidChar]
  omega

/-- **What is decoded is a text that spells the value**, up to its closing quote. -/
theorem spelled_of_decode {value : String} (h : decode read cs = .ok (value, rest)) :
    ∃ written text, Spelled Denotes written text ∧ cs = written ++ '"' :: rest ∧
      value = String.ofList (read.reverse ++ text) := by
  fun_induction decode read cs with
  | case2 read tail =>
    cases h
    exact ⟨[], [], ⟨[], .nil, rfl⟩, rfl, by rw [List.append_nil]⟩
  | case9 read a b c d leading hunit _ hleading a' b' c' d' tail trailing hunit' htrailing _ ih =>
    obtain ⟨written, text, hspelled, rfl, rfl⟩ := ih h
    refine ⟨_, _, Spelled.cons (denotes_pair hunit hunit' hleading htrailing) hspelled, rfl, ?_⟩
    rw [List.reverse_cons, List.append_assoc, List.singleton_append]
  | case13 read a b c d tail value hunit htrailing hleading _ ih =>
    obtain ⟨written, text, hspelled, rfl, rfl⟩ := ih h
    refine ⟨_, _, Spelled.cons (denotes_unit hunit htrailing hleading) hspelled, rfl, ?_⟩
    rw [List.reverse_cons, List.append_assoc, List.singleton_append]
  | case16 read e tail _ _ x hletter _ ih =>
    obtain ⟨written, text, hspelled, rfl, rfl⟩ := ih h
    refine ⟨_, _, Spelled.cons (Denotes.letter hletter) hspelled, rfl, ?_⟩
    rw [List.reverse_cons, List.append_assoc, List.singleton_append]
  | case18 read x tail hquote hbackslash hcontrol ih =>
    obtain ⟨written, text, hspelled, rfl, rfl⟩ := ih h
    refine ⟨_, _, Spelled.cons (Denotes.plain hquote hbackslash hcontrol) hspelled, rfl, ?_⟩
    rw [List.reverse_cons, List.append_assoc, List.singleton_append]
  | _ => cases h

end Quoted

/-! ### Numerals -/

namespace Numeral

/-- At least one decimal digit. -/
def Digits (cs : List Char) : Prop := cs ≠ [] ∧ ∀ c ∈ cs, c.isDigit = true

/-- How a fraction of these digits is written. -/
inductive WritesFraction : List Char → List Char → Prop
  | none : WritesFraction [] []
  | point {fraction : List Char} (h : Digits fraction) : WritesFraction fraction ('.' :: fraction)

/-- The signs of an exponent, and whether they make it negative. -/
def signs : List (Bool × List Char) := [(false, []), (false, ['+']), (true, ['-'])]

/-- How an exponent is written. -/
inductive WritesExponent : Option (Bool × List Char) → List Char → Prop
  | none : WritesExponent none []
  | power {mark : Char} {negative : Bool} {sign power : List Char} (hmark : mark = 'e' ∨ mark = 'E')
    (hsign : (negative, sign) ∈ signs) (h : Digits power) :
    WritesExponent (some (negative, power)) (mark :: (sign ++ power))

/-- How a numeral is written: its whole part is one zero, or does not start with zero. -/
def Writes (n : Numeral) (cs : List Char) : Prop :=
  ∃ fraction exponent, Digits n.whole ∧ (n.whole.head? = some '0' → n.whole = ['0']) ∧
    WritesFraction n.fraction fraction ∧ WritesExponent n.exponent exponent ∧
    cs = (if n.negative then ['-'] else []) ++ (n.whole ++ (fraction ++ exponent))

section

variable {cs front rest power fraction written : List Char} {negative : Bool}
  {exponent : Option (Bool × List Char)}

theorem Digits.exists_cons (h : Digits cs) : ∃ c tail, cs = c :: tail ∧ c.isDigit = true := by
  obtain ⟨c, tail, rfl⟩ := List.exists_cons_of_ne_nil h.1
  exact ⟨c, tail, rfl, h.2 c List.mem_cons_self⟩

theorem Digits.ne_of_cons {c : Char} (h : Digits (c :: cs)) {d : Char} (hd : d.isDigit = false) :
    c ≠ d := by
  rintro rfl
  have hdigit := h.2 c List.mem_cons_self
  rw [hd] at hdigit
  cases hdigit

/-! #### What is written is scanned -/

theorem scanPower_of_digits (negative : Bool) (h : Digits power) (hrest : NoDigit rest) :
    scanPower negative (power ++ rest) = .ok (some (negative, power), rest) := by
  rw [scanPower, digits_of_noDigit h.2 hrest]
  split
  · rename_i heq
    exact absurd (congrArg Prod.fst heq) h.1
  · rename_i heq
    cases heq
    rfl

theorem scanExponent_of_writes (h : WritesExponent exponent written) (hrest : Closing rest) :
    scanExponent (written ++ rest) = .ok (exponent, rest) := by
  cases h with
  | none => exact scanExponent_of_closing hrest
  | @power mark negative sign power hmark hsign h =>
    have hscan := scanPower_of_digits negative h (noDigit_of_closing hrest)
    obtain ⟨c, tail, rfl, hdigit⟩ := h.exists_cons
    simp only [signs, List.mem_cons, List.not_mem_nil, or_false, Prod.mk.injEq] at hsign
    rcases hsign with ⟨rfl, rfl⟩ | ⟨rfl, rfl⟩ | ⟨rfl, rfl⟩
    · -- without a sign a digit comes next, which is none
      have hne : ∀ d tail', d.isDigit = false → c :: (tail ++ rest) ≠ d :: tail' := by
        rintro d tail' hd heq
        exact h.ne_of_cons hd (List.cons.inj heq).1
      rw [List.cons_append, List.nil_append, List.cons_append, scanExponent, if_pos hmark]
      · exact hscan
      · exact fun tail' => hne '-' tail' rfl
      · exact fun tail' => hne '+' tail' rfl
    · rw [List.cons_append, List.cons_append, List.nil_append, List.cons_append, scanExponent,
        if_pos hmark]
      exact hscan
    · rw [List.cons_append, List.cons_append, List.nil_append, List.cons_append, scanExponent,
        if_pos hmark]
      exact hscan

theorem scanFraction_of_writes (h : WritesFraction fraction written)
    (hrest : ∀ c ∈ rest.head?, c.isDigit = false ∧ c ≠ '.') :
    scanFraction (written ++ rest) = .ok (fraction, rest) := by
  cases h with
  | none =>
    rw [List.nil_append, scanFraction]
    rintro cs rfl
    exact (hrest '.' rfl).2 rfl
  | point h =>
    rw [List.cons_append, scanFraction, digits_of_noDigit h.2 fun c hc => (hrest c hc).1]
    split
    · rename_i heq
      exact absurd (congrArg Prod.fst heq) h.1
    · rename_i heq
      cases heq
      rfl

theorem scanWhole_of_digits (h : Digits cs) (hzero : cs.head? = some '0' → cs = ['0'])
    (hrest : NoDigit rest) : scanWhole (cs ++ rest) = .ok (cs, rest) := by
  rw [scanWhole, digits_of_noDigit h.2 hrest]
  split
  · rename_i heq
    exact absurd (congrArg Prod.fst heq) h.1
  · rename_i heq
    cases heq
    cases hzero rfl
  · rename_i heq
    cases heq
    rfl

theorem head_of_writesExponent (h : WritesExponent exponent written) (hrest : Closing rest) :
    ∀ c ∈ (written ++ rest).head?, c.isDigit = false ∧ c ≠ '.' := by
  cases h with
  | none => exact fun c hc => ⟨(hrest c hc).1, (hrest c hc).2.1⟩
  | power hmark hsign h =>
    rintro c hc
    cases hc
    rcases hmark with rfl | rfl <;> decide

/-- Behind the whole part stands no digit. -/
theorem noDigit_of_writesFraction (h : WritesFraction fraction written) (hrest : NoDigit rest) :
    NoDigit (written ++ rest) := by
  cases h with
  | none => exact hrest
  | point h =>
    rintro c hc
    cases hc
    rfl

/-- **What writes a numeral is scanned as that numeral**, unless it goes on. -/
theorem scan_of_writes {n : Numeral} (h : n.Writes cs) (hrest : Closing rest) :
    scan (cs ++ rest) = .ok (n, rest) := by
  obtain ⟨fraction, exponent, hwhole, hzero, hfraction, hexponent, rfl⟩ := h
  obtain ⟨negative, whole, fractionDigits, power⟩ := n
  have hbehind := head_of_writesExponent hexponent hrest
  have hstop : NoDigit (fraction ++ (exponent ++ rest)) :=
    noDigit_of_writesFraction hfraction fun c hc => (hbehind c hc).1
  have hunsigned : scanUnsigned negative (whole ++ (fraction ++ (exponent ++ rest))) =
      .ok (⟨negative, whole, fractionDigits, power⟩, rest) := by
    rw [scanUnsigned, scanWhole_of_digits hwhole hzero hstop]
    change (scanFraction (fraction ++ (exponent ++ rest)) >>= _) = _
    rw [scanFraction_of_writes hfraction hbehind]
    change (scanExponent (exponent ++ rest) >>= _) = _
    rw [scanExponent_of_writes hexponent hrest]
    rfl
  rw [List.append_assoc, List.append_assoc, List.append_assoc]
  cases negative with
  | true => exact hunsigned
  | false =>
    obtain ⟨c, tail, hcons, hdigit⟩ := hwhole.exists_cons
    dsimp only at hcons
    subst hcons
    change scan (c :: (tail ++ (fraction ++ (exponent ++ rest)))) = _
    rw [scan]
    · exact hunsigned
    · rintro cs heq
      cases heq
      cases hdigit

/-! #### What is scanned is written -/

theorem digits_spec (h : digits cs = (front, rest)) :
    cs = front ++ rest ∧ (∀ c ∈ front, c.isDigit = true) ∧ NoDigit rest := by
  obtain ⟨rfl, rfl⟩ := Prod.mk.inj h
  refine ⟨List.takeWhile_append_dropWhile.symm, fun c hc => ?_, fun c hc => ?_⟩
  · exact List.all_eq_true.1 (List.all_takeWhile (p := Char.isDigit)) c hc
  · have hstop := List.head?_dropWhile_not Char.isDigit cs
    rw [Option.mem_def.1 hc] at hstop
    exact hstop

theorem writes_of_scanPower (h : scanPower negative cs = .ok (exponent, rest)) :
    ∃ power, exponent = some (negative, power) ∧ Digits power ∧ cs = power ++ rest ∧
      NoDigit rest := by
  unfold scanPower at h
  split at h
  · cases h
  · rename_i power tail hne heq
    cases h
    obtain ⟨hcs, hall, hstop⟩ := digits_spec heq
    exact ⟨power, rfl, ⟨fun hnil => hne (hnil ▸ rfl), hall⟩, hcs, hstop⟩

theorem writes_of_scanExponent (h : scanExponent cs = .ok (exponent, rest)) (hcs : NoDigit cs) :
    ∃ written, WritesExponent exponent written ∧ cs = written ++ rest ∧ NoDigit rest := by
  unfold scanExponent at h
  split at h
  · cases h
    exact ⟨[], .none, rfl, nofun⟩
  · rename_i mark tail
    split at h
    · rename_i hmark
      split at h
      all_goals
        obtain ⟨power, rfl, hpower, rfl, hstop⟩ := writes_of_scanPower h
      · have hsign : (true, ['-']) ∈ signs := by decide
        exact ⟨_, .power hmark hsign hpower, rfl, hstop⟩
      · have hsign : (false, ['+']) ∈ signs := by decide
        exact ⟨_, .power hmark hsign hpower, rfl, hstop⟩
      · have hsign : (false, []) ∈ signs := by decide
        exact ⟨_, .power hmark hsign hpower, rfl, hstop⟩
    · cases h
      exact ⟨[], .none, rfl, hcs⟩

theorem writes_of_scanFraction (h : scanFraction cs = .ok (fraction, rest)) (hcs : NoDigit cs) :
    ∃ written, WritesFraction fraction written ∧ cs = written ++ rest ∧ NoDigit rest := by
  unfold scanFraction at h
  split at h
  · rename_i tail
    split at h
    · cases h
    · rename_i digits' tail' hne heq
      cases h
      obtain ⟨rfl, hall, hstop⟩ := digits_spec heq
      exact ⟨_, .point ⟨fun hnil => hne (hnil ▸ rfl), hall⟩, rfl, hstop⟩
  · cases h
    exact ⟨[], .none, rfl, hcs⟩

theorem digits_of_scanWhole (h : scanWhole cs = .ok (front, rest)) :
    Digits front ∧ (front.head? = some '0' → front = ['0']) ∧ cs = front ++ rest ∧
      NoDigit rest := by
  unfold scanWhole at h
  split at h
  · cases h
  · cases h
  · rename_i whole tail hne hzero heq
    cases h
    obtain ⟨hcs, hall, hstop⟩ := digits_spec heq
    refine ⟨⟨fun hnil => hne (hnil ▸ rfl), hall⟩, fun hhead => ?_, hcs, hstop⟩
    cases front with
    | nil => cases hhead
    | cons c tail =>
      cases hhead
      cases tail with
      | nil => rfl
      | cons d tail => exact (hzero d tail rfl).elim

theorem writes_of_scanUnsigned {n : Numeral} (h : scanUnsigned negative cs = .ok (n, rest)) :
    ∃ front, n.Writes ((if negative then ['-'] else []) ++ front) ∧ cs = front ++ rest ∧
      NoDigit rest := by
  obtain ⟨⟨whole, behind⟩, hwhole, h⟩ := ok_of_bind h
  obtain ⟨⟨fractionDigits, behind'⟩, hfraction, h⟩ := ok_of_bind h
  obtain ⟨⟨power, behind''⟩, hexponent, h⟩ := ok_of_bind h
  cases h
  obtain ⟨hdigits, hzero, rfl, hstop⟩ := digits_of_scanWhole hwhole
  obtain ⟨fraction, hf, rfl, hstop'⟩ := writes_of_scanFraction hfraction hstop
  obtain ⟨exponent, he, rfl, hstop''⟩ := writes_of_scanExponent hexponent hstop'
  refine ⟨whole ++ (fraction ++ exponent),
    ⟨fraction, exponent, hdigits, hzero, hf, he, rfl⟩, ?_, hstop''⟩
  rw [List.append_assoc, List.append_assoc]

/-- **What is scanned as a numeral writes it**, and no digit follows. -/
theorem writes_of_scan {n : Numeral} (h : scan cs = .ok (n, rest)) :
    ∃ front, n.Writes front ∧ cs = front ++ rest ∧ NoDigit rest := by
  unfold scan at h
  split at h
  · obtain ⟨front, hwrites, rfl, hstop⟩ := writes_of_scanUnsigned h
    exact ⟨_, hwrites, rfl, hstop⟩
  · obtain ⟨front, hwrites, rfl, hstop⟩ := writes_of_scanUnsigned h
    exact ⟨_, hwrites, rfl, hstop⟩

/-- A numeral starts with its sign or a digit. -/
theorem Writes.exists_cons {n : Numeral} (h : n.Writes cs) :
    ∃ c tail, cs = c :: tail ∧ (c = '-' ∨ c.isDigit = true) := by
  obtain ⟨fraction, exponent, hwhole, -, -, -, rfl⟩ := h
  cases n.negative with
  | true => exact ⟨'-', _, rfl, .inl rfl⟩
  | false =>
    obtain ⟨c, tail, hcons, hdigit⟩ := hwhole.exists_cons
    rw [hcons]
    exact ⟨c, _, rfl, .inr hdigit⟩

end

end Numeral

/-! ### Tokens -/

/-- The characters that are tokens. -/
def structural : List (Char × Token) :=
  [('\x7b', .openObject), ('\x7d', .closeObject), ('[', .openArray), (']', .closeArray),
    (':', .colon), (',', .comma)]

/-- The words that are tokens. -/
def words : List (String × Token) :=
  [("null", .null), ("true", .truth true), ("false", .truth false)]

/-- The characters that are one token. -/
inductive Lexeme : List Char → Token → Prop
  | structural {c : Char} {token : Token} (h : (c, token) ∈ structural) : Lexeme [c] token
  | word {letters : String} {token : Token} (h : (letters, token) ∈ words) :
    Lexeme letters.toList token
  | numeral {n : Numeral} {cs : List Char} (h : n.Writes cs) : Lexeme cs (.number n.number)
  | quoted {text : String} {written : List Char} (h : Spelled Quoted.Denotes written text.toList) :
    Lexeme ('"' :: (written ++ ['"'])) (.text (some text))
  /-- A quoted text with escapes that denote no character. -/
  | undenoting {written : List Char} (h : Quoted.Proper written)
    (hnone : ∀ text, ¬Spelled Quoted.Denotes written text) :
    Lexeme ('"' :: (written ++ ['"'])) (.text none)

/-- The texts that write these tokens, with blanks before, between and behind them. No numeral goes
on behind a number. -/
inductive Writing : List Char → List Token → Prop
  | nil : Writing [] []
  | blank {c : Char} {cs : List Char} {ts : List Token} (h : Token.isBlank c = true)
    (rest : Writing cs ts) : Writing (c :: cs) ts
  | lexeme {front cs : List Char} {token : Token} {ts : List Token} (h : Lexeme front token)
    (hclosing : ∀ value, token = .number value → Closing cs) (rest : Writing cs ts) :
    Writing (front ++ cs) (token :: ts)

namespace Token

/-- Whether a token is complete. -/
def isWhole : Token → Bool
  | .brokenText _ _ | .broken _ _ => false
  | _ => true

theorem punctuation?_iff {c : Char} {token : Token} :
    punctuation? c = some token ↔ (c, token) ∈ structural := by
  unfold punctuation? structural
  split_ifs <;> simp_all [eq_comm]

theorem word_iff {letters cs rest : List Char} :
    word letters cs = .ok rest ↔ cs = letters ++ rest := by
  fun_induction word letters cs with
  | case1 cs => simp
  | case2 => simp
  | case3 c letters cs ih => simpa using ih
  | case4 letter letters c cs hne => simp [hne]

theorem words_of_word? {c : Char} {letters : List Char} {token : Token}
    (h : word? c = some (letters, token)) : (String.ofList (c :: letters), token) ∈ words := by
  unfold word? at h
  split_ifs at h with hn ht hf
  all_goals
    subst c
    cases h
    decide

theorem ofQuoted_of_spelled {text : String} {written : List Char}
    (h : Spelled Quoted.Denotes written text.toList) (cs : List Char) :
    ofQuoted (written ++ '"' :: cs) = (.text (some text), cs) := by
  rw [ofQuoted, Quoted.pass_spelled h, Quoted.decode_spelled h]
  simp

theorem ofQuoted_of_undenoting {written : List Char} (h : Quoted.Proper written)
    (hnone : ∀ text, ¬Spelled Quoted.Denotes written text) (cs : List Char) :
    ofQuoted (written ++ '"' :: cs) = (.text none, cs) := by
  cases hdecode : Quoted.decode [] (written ++ '"' :: cs) with
  | error fault => rw [ofQuoted, Quoted.pass_of_proper h, hdecode]
  | ok pair =>
    -- what is decoded would be the same characters, since both end at the closing quote
    obtain ⟨value, rest⟩ := pair
    obtain ⟨written', text, hspelled, heq, -⟩ := Quoted.spelled_of_decode hdecode
    have hpass : Quoted.pass (written ++ '"' :: cs) = .ok rest := by
      rw [heq]
      exact Quoted.pass_spelled hspelled rest
    rw [Quoted.pass_of_proper h] at hpass
    cases hpass
    rw [List.append_cancel_right heq] at hnone
    exact absurd hspelled (hnone text)

/-- **A lexeme is scanned as its token**, whatever follows it. -/
theorem next?_of_lexeme {front cs : List Char} {token : Token} (h : Lexeme front token)
    (hclosing : ∀ value, token = .number value → Closing cs) :
    next? (front ++ cs) = some (token, cs) := by
  cases h with
  | structural h =>
    have hc := punctuation?_iff.2 h
    rw [List.singleton_append, next?_cons (not_blank_of_punctuation hc),
      startingWith_punctuation hc]
  | word h =>
    simp only [words, List.mem_cons, List.not_mem_nil, or_false, Prod.mk.injEq] at h
    rcases h with ⟨rfl, rfl⟩ | ⟨rfl, rfl⟩ | ⟨rfl, rfl⟩
    all_goals rfl
  | numeral h =>
    have hscan := Numeral.scan_of_writes h (hclosing _ rfl)
    obtain ⟨c, tail, rfl, hc⟩ := h.exists_cons
    rw [List.cons_append] at hscan ⊢
    rw [next?_cons (not_blank_of_first hc), startingWith_numeral hc, ofNumeral, hscan]
  | quoted h =>
    rw [List.cons_append, List.append_assoc, next?_cons (by decide), startingWith, if_pos rfl]
    exact congrArg some (ofQuoted_of_spelled h cs)
  | undenoting h hnone =>
    rw [List.cons_append, List.append_assoc, next?_cons (by decide), startingWith, if_pos rfl]
    exact congrArg some (ofQuoted_of_undenoting h hnone cs)

theorem lexeme_of_ofQuoted {cs rest : List Char} {token : Token} (h : ofQuoted cs = (token, rest))
    (hwhole : token.isWhole = true) :
    ∃ front value, '"' :: cs = front ++ rest ∧ Lexeme front token ∧ token = .text value := by
  rw [ofQuoted] at h
  cases hpass : Quoted.pass cs with
  | error fault =>
    rw [hpass] at h
    cases hdecode : Quoted.decode [] cs with
    | error read =>
      rw [hdecode] at h
      cases h
      cases hwhole
    | ok pair =>
      rw [hdecode] at h
      cases h
      cases hwhole
  | ok tail =>
    rw [hpass] at h
    obtain ⟨written, hproper, rfl⟩ := Quoted.proper_of_pass hpass
    cases hdecode : Quoted.decode [] (written ++ '"' :: tail) with
    | error read =>
      rw [hdecode] at h
      cases h
      refine ⟨'"' :: (written ++ ['"']), none, by simp,
        .undenoting hproper fun text hspelled => ?_, rfl⟩
      rw [Quoted.decode_spelled hspelled] at hdecode
      cases hdecode
    | ok pair =>
      obtain ⟨value, behind⟩ := pair
      rw [hdecode] at h
      cases h
      obtain ⟨written', text, hspelled, heq, rfl⟩ := Quoted.spelled_of_decode hdecode
      rw [heq, Quoted.pass_spelled hspelled] at hpass
      cases hpass
      refine ⟨'"' :: (written' ++ ['"']), _, by simp [heq], .quoted ?_, rfl⟩
      rwa [List.reverse_nil, List.nil_append, String.toList_ofList]

theorem lexeme_of_ofWord {c : Char} {letters cs rest : List Char} {found token : Token}
    (hword : word? c = some (letters, found)) (h : ofWord letters found cs = (token, rest))
    (hwhole : token.isWhole = true) :
    ∃ front, c :: cs = front ++ rest ∧ Lexeme front token ∧ token = found := by
  unfold ofWord at h
  split at h
  · rename_i behind hletters
    cases h
    have hlexeme := Lexeme.word (words_of_word? hword)
    rw [String.toList_ofList] at hlexeme
    refine ⟨c :: letters, ?_, hlexeme, rfl⟩
    rw [word_iff.1 hletters, List.cons_append]
  · cases h
    cases hwhole

theorem lexeme_of_ofNumeral {cs rest : List Char} {token : Token} (h : ofNumeral cs = (token, rest))
    (hwhole : token.isWhole = true) :
    ∃ front, cs = front ++ rest ∧ Lexeme front token ∧ Numeral.NoDigit rest := by
  unfold ofNumeral at h
  split at h
  · rename_i hscan
    cases h
    obtain ⟨front, hwrites, hcs, hstop⟩ := Numeral.writes_of_scan hscan
    exact ⟨front, hcs, .numeral hwrites, hstop⟩
  · cases h
    cases hwhole

/-- **A complete token comes of a lexeme of its own**, and no digit follows a number. -/
theorem lexeme_of_startingWith {c : Char} {cs rest : List Char} {token : Token}
    (h : startingWith c cs = (token, rest)) (hwhole : token.isWhole = true) :
    ∃ front, c :: cs = front ++ rest ∧ Lexeme front token ∧
      ∀ value, token = .number value → Numeral.NoDigit rest := by
  unfold startingWith at h
  by_cases hquote : c = '"'
  · rw [if_pos hquote] at h
    obtain ⟨front, value, hfront, hlexeme, rfl⟩ := lexeme_of_ofQuoted h hwhole
    exact ⟨front, hquote ▸ hfront, hlexeme, nofun⟩
  rw [if_neg hquote] at h
  cases hpunctuation : punctuation? c with
  | some found =>
    rw [hpunctuation] at h
    cases h
    have hmem := punctuation?_iff.1 hpunctuation
    refine ⟨[c], rfl, .structural hmem, ?_⟩
    rintro value rfl
    simp [structural] at hmem
  | none =>
    rw [hpunctuation] at h
    cases hword : word? c with
    | some pair =>
      obtain ⟨letters, found⟩ := pair
      rw [hword] at h
      obtain ⟨front, hfront, hlexeme, rfl⟩ := lexeme_of_ofWord hword h hwhole
      refine ⟨front, hfront, hlexeme, ?_⟩
      rintro value rfl
      have hmem := words_of_word? hword
      simp [words] at hmem
    | none =>
      rw [hword] at h
      dsimp only at h
      split at h
      · obtain ⟨front, hfront, hlexeme, hstop⟩ := lexeme_of_ofNumeral h hwhole
        exact ⟨front, hfront, hlexeme, fun _ _ => hstop⟩
      · cases h
        cases hwhole

end Token

/-! ### Whole texts -/

namespace Writing

variable {cs : List Char} {ts : List Token}

theorem collect (h : Writing cs ts) (before : List Token) :
    Token.collect before cs = before.reverse ++ ts := by
  induction h generalizing before with
  | nil => rw [Token.collect_of_none before rfl, List.append_nil]
  | blank h _ ih => rw [Token.collect_blank h, ih]
  | lexeme h hclosing _ ih =>
    rw [Token.collect_of_next? _ (Token.next?_of_lexeme h hclosing), ih, List.reverse_cons,
      List.append_assoc, List.singleton_append]

/-- **A text that writes tokens has these tokens**, so it writes no others. -/
theorem ofText_eq {source : String} (h : Writing source.toList ts) : Token.ofText source = ts :=
  (h.collect []).trans (List.nil_append ts)

theorem blanks {before : List Char} (hbefore : ∀ c ∈ before, Token.isBlank c = true)
    (h : Writing cs ts) : Writing (before ++ cs) ts := by
  induction before with
  | nil => exact h
  | cons c before ih =>
    exact .blank (hbefore c List.mem_cons_self)
      (ih fun d hd => hbefore d (List.mem_cons_of_mem _ hd))

end Writing

/-- What may stand first in a text that writes tokens. -/
theorem Lexeme.exists_cons {front : List Char} {token : Token} (h : Lexeme front token) :
    ∃ c tail, front = c :: tail ∧ c ≠ '.' ∧ c ≠ 'e' ∧ c ≠ 'E' := by
  cases h with
  | structural h =>
    refine ⟨_, [], rfl, ?_⟩
    simp only [Json.structural, List.mem_cons, List.not_mem_nil, or_false, Prod.mk.injEq] at h
    rcases h with h | h | h | h | h | h
    all_goals
      rw [h.1]
      decide
  | word h =>
    simp only [words, List.mem_cons, List.not_mem_nil, or_false, Prod.mk.injEq] at h
    rcases h with ⟨rfl, rfl⟩ | ⟨rfl, rfl⟩ | ⟨rfl, rfl⟩
    all_goals exact ⟨_, _, rfl, by decide⟩
  | numeral h =>
    obtain ⟨c, tail, rfl, hc⟩ := h.exists_cons
    refine ⟨c, tail, rfl, ?_⟩
    refine ⟨?_, ?_, ?_⟩
    all_goals
      rintro rfl
      revert hc
      decide
  | quoted h => exact ⟨_, _, rfl, by decide⟩
  | undenoting h hnone => exact ⟨_, _, rfl, by decide⟩

/-- A text that writes tokens goes on with no numeral, unless with a digit. -/
theorem Writing.closing {cs : List Char} {ts : List Token} (h : Writing cs ts)
    (hdigit : Numeral.NoDigit cs) : Closing cs := by
  cases h with
  | nil => exact closing_nil
  | blank hblank _ =>
    refine closing_cons ⟨hdigit _ rfl, ?_⟩
    refine ⟨?_, ?_, ?_⟩
    all_goals
      rintro rfl
      cases hblank
  | lexeme hlexeme _ _ =>
    obtain ⟨c, tail, rfl, hc⟩ := hlexeme.exists_cons
    exact closing_cons ⟨hdigit c rfl, hc⟩

/-- What stands before a token, or before the end of a text, are blanks. -/
theorem next?_spec (cs : List Char) :
    ∃ before behind, cs = before ++ behind ∧ (∀ c ∈ before, Token.isBlank c = true) ∧
      (behind = [] ∧ Token.next? cs = none ∨
        ∃ c tail, behind = c :: tail ∧ Token.next? cs = some (Token.startingWith c tail)) := by
  refine ⟨cs.takeWhile Token.isBlank, cs.dropWhile Token.isBlank,
    List.takeWhile_append_dropWhile.symm, ?_, ?_⟩
  · exact List.all_eq_true.1 List.all_takeWhile
  · rw [Token.next?]
    cases cs.dropWhile Token.isBlank with
    | nil => exact .inl ⟨rfl, rfl⟩
    | cons c tail => exact .inr ⟨c, tail, rfl, rfl⟩

/-- A text whose tokens are complete writes them, behind those met before. -/
theorem writing_of_whole {before : List Token} {cs : List Char}
    (h : ∀ t ∈ Token.collect before cs, t.isWhole = true) :
    ∃ ts, Token.collect before cs = before.reverse ++ ts ∧ Writing cs ts := by
  fun_induction Token.collect before cs with
  | case1 before cs hnone =>
    obtain ⟨blanks, behind, rfl, hblanks, ⟨rfl, -⟩ | ⟨c, tail, rfl, hsome⟩⟩ := next?_spec cs
    · exact ⟨[], (List.append_nil _).symm, Writing.nil.blanks hblanks⟩
    · rw [hnone] at hsome
      cases hsome
  | case2 before cs token rest hnext _ ih =>
    obtain ⟨ts, hts, hwriting⟩ := ih h
    obtain ⟨blanks, behind, rfl, hblanks, ⟨rfl, hnone⟩ | ⟨c, tail, rfl, hsome⟩⟩ := next?_spec cs
    · rw [hnext] at hnone
      cases hnone
    have hstart : Token.startingWith c tail = (token, rest) :=
      Option.some.inj (hsome.symm.trans hnext)
    have hwhole : token.isWhole = true := by
      refine h token ?_
      rw [hts]
      simp
    obtain ⟨front, hfront, hlexeme, hstop⟩ := Token.lexeme_of_startingWith hstart hwhole
    refine ⟨token :: ts, ?_, ?_⟩
    · rw [hts, List.reverse_cons, List.append_assoc, List.singleton_append]
    · rw [hfront]
      exact (Writing.lexeme hlexeme (fun value hvalue => hwriting.closing (hstop value hvalue))
        hwriting).blanks hblanks

theorem Lexeme.isWhole {front : List Char} {token : Token} (h : Lexeme front token) :
    token.isWhole = true := by
  cases h with
  | structural h =>
    have hall : ∀ entry ∈ Json.structural, entry.2.isWhole = true := by decide
    exact hall _ h
  | word h =>
    have hall : ∀ entry ∈ words, entry.2.isWhole = true := by decide
    exact hall _ h
  | numeral h => rfl
  | quoted h => rfl
  | undenoting h hnone => rfl

theorem Writing.isWhole {cs : List Char} {ts : List Token} (h : Writing cs ts) :
    ∀ t ∈ ts, t.isWhole = true := by
  induction h with
  | nil => exact nofun
  | blank _ _ ih => exact ih
  | lexeme h _ _ ih => exact List.forall_mem_cons.2 ⟨h.isWhole, ih⟩

/-- **A text writes tokens exactly when the scanners find these and none of them is broken.** -/
theorem writing_iff {source : String} {ts : List Token} :
    Writing source.toList ts ↔ Token.ofText source = ts ∧ ∀ t ∈ ts, t.isWhole = true := by
  constructor
  · intro h
    exact ⟨h.ofText_eq, h.isWhole⟩
  · rintro ⟨rfl, hwhole⟩
    obtain ⟨ts, hts, hwriting⟩ := writing_of_whole hwhole
    rw [Token.ofText, hts]
    exact hwriting

end Json

end BroadcastChat
