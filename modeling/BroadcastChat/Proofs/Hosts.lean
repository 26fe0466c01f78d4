/-
# What stands before the path of a URL

In a URL that was read, nothing before the path ends it early: host, port, user
and password are written without slashes, question marks and hash signs
(`Url.Unbroken`), however they were written before. For a domain name this goes
through Punycode in both directions: a label that is written so adds only
digits and hyphens to what it keeps (`Punycode.mem_encode`), and one that was
written so to begin with has nothing else in it (`Punycode.mem_of_decode?`).

Key definitions: `Url.Unbroken`, `Url.authority`.
Key theorems: `Punycode.mem_encode`, `Punycode.mem_of_decode?`,
`Url.Domain.unbroken_toAscii?`, `Url.Host.unbroken_text`,
`Url.unbroken_authority`.
-/
import BroadcastChat.Json.Fault
import BroadcastChat.Url
import Mathlib.Data.Option.Basic

namespace BroadcastChat

/-! ### Punycode -/

namespace Text.Punycode

theorem value?_digit {n : Nat} (h : n < base) : (value? (digit n)).isSome := by
  have hall : ∀ m : Fin 36, (value? (digit m)).isSome := by decide
  exact hall ⟨n, h⟩

theorem threshold_le (place bias : Nat) : threshold place bias ≤ 26 := by
  unfold threshold
  omega

theorem value?_digitsFrom {bias fuel place n : Nat} :
    ∀ c ∈ digitsFrom bias fuel place n, (value? c).isSome := by
  induction fuel generalizing place n with
  | zero => simp [digitsFrom]
  | succ fuel ih =>
    have ht := threshold_le place bias
    have hbase : base = 36 := rfl
    intro c hc
    unfold digitsFrom at hc
    dsimp only at hc
    split at hc
    · rw [List.mem_singleton] at hc
      subst hc
      exact value?_digit (by omega)
    · rcases List.mem_cons.1 hc with rfl | hc
      · have hmod := Nat.mod_lt (n - threshold place bias)
          (show 0 < base - threshold place bias by omega)
        exact value?_digit (by omega)
      · exact ih c hc

theorem value?_passOver {wanted : Char} {writing : Writing} (cs : List Char)
    (h : ∀ c ∈ writing.written, (value? c).isSome) :
    ∀ c ∈ (passOver wanted writing cs).written, (value? c).isSome := by
  induction cs generalizing writing with
  | nil => exact h
  | cons d rest ih =>
    unfold passOver
    split
    · exact ih h
    split
    · refine ih fun c hc => ?_
      rcases List.mem_append.1 hc with hc | hc
      · exact value?_digitsFrom c (List.mem_reverse.1 hc)
      · exact h c hc
    · exact ih h

theorem value?_encodeFrom {cs : List Char} {writing : Writing} {reached : Nat} (wanted : List Char)
    (h : ∀ c ∈ writing.written, (value? c).isSome) :
    ∀ c ∈ encodeFrom cs writing reached wanted, (value? c).isSome := by
  induction wanted generalizing writing reached with
  | nil => exact fun c hc => h c (List.mem_reverse.1 hc)
  | cons d rest ih => exact ih (value?_passOver cs h)

/-- **What is written of a text is of the text, a hyphen or a digit.** -/
theorem mem_encode {cs : List Char} {c : Char} (h : c ∈ encode cs) :
    c ∈ cs ∨ c = '-' ∨ (value? c).isSome := by
  unfold encode at h
  dsimp only at h
  rcases List.mem_append.1 h with h | h
  · split at h
    · cases h
    · rcases List.mem_append.1 h with h | h
      · exact .inl (List.mem_filter.1 h).1
      · exact .inr (.inl (List.mem_singleton.1 h))
  · exact .inr (.inr (value?_encodeFrom _ (fun c hc => absurd hc List.not_mem_nil) c h))

/-- A number that is read is made of digits. -/
theorem digits_of_number? {bias place weight acc n : Nat} {cs rest : List Char}
    (h : number? bias place weight acc cs = some (n, rest)) :
    ∃ ds, cs = ds ++ rest ∧ ∀ c ∈ ds, (value? c).isSome := by
  induction cs generalizing place weight acc with
  | nil => cases h
  | cons c cs ih =>
    unfold number? at h
    cases hd : value? c with
    | none => simp [hd] at h
    | some d =>
      simp only [hd, Option.bind_eq_bind, Option.bind_some] at h
      split at h
      · cases h
        exact ⟨[c], rfl, by simp [hd]⟩
      · obtain ⟨ds, rfl, hds⟩ := ih h
        exact ⟨c :: ds, rfl, by simpa [hd] using hds⟩

/-- Placing characters keeps those that are there, and reads digits only. -/
theorem decodeFrom_keeps {out cs label : List Char} {place code bias : Nat} {isFirst : Bool}
    (h : decodeFrom out place code bias isFirst cs = some label) :
    (∀ c ∈ out, c ∈ label) ∧ ∀ c ∈ cs, (value? c).isSome := by
  fun_induction decodeFrom out place code bias isFirst cs with
  | case1 out =>
    cases h
    exact ⟨fun c hc => hc, fun c hc => absurd hc List.not_mem_nil⟩
  | case2 => cases h
  | case3 out place code bias isFirst cs _ step rest hnumber _ count newCode newPlace _ ih =>
    -- one more character is placed between those that are there, and they stay
    obtain ⟨hout, hrest⟩ := ih h
    obtain ⟨ds, rfl, hds⟩ := digits_of_number? hnumber
    refine ⟨fun c hc => hout c ?_, fun c hc => (List.mem_append.1 hc).elim (hds c) (hrest c)⟩
    rw [← List.take_append_drop newPlace out] at hc
    rcases List.mem_append.1 hc with hc | hc
    · exact List.mem_append_left _ hc
    · exact List.mem_append_right _ (List.mem_cons_of_mem _ hc)
  | case4 => cases h

theorem mem_splitAtHyphen {cs : List Char} {c : Char} (h : c ∈ cs) :
    c ∈ (splitAtHyphen cs).1 ∨ c = '-' ∨ c ∈ (splitAtHyphen cs).2 := by
  have hparts := List.takeWhile_append_dropWhile (p := (· ≠ '-')) (l := cs.reverse)
  unfold splitAtHyphen
  dsimp only
  generalize hbehind : cs.reverse.takeWhile (· ≠ '-') = behind at hparts ⊢
  split
  · exact .inr (.inr h)
  rename_i hplain
  cases hfront : cs.reverse.dropWhile (· ≠ '-') with
  | nil =>
    -- no hyphen: all of the text would stand behind it
    rw [hfront, List.append_nil] at hparts
    exact absurd (by simp [hparts]) hplain
  | cons x front =>
    have hx : x = '-' := by
      have hhead := List.head?_dropWhile_not (p := (· ≠ '-')) (l := cs.reverse)
      rw [hfront] at hhead
      simpa using hhead
    have hcs : cs = front.reverse ++ '-' :: behind.reverse := by
      have hreverse := congrArg List.reverse hparts
      rw [hfront, hx] at hreverse
      simpa using hreverse.symm
    have hlength : cs.length - behind.reverse.length - 1 = front.reverse.length := by
      rw [hcs, List.length_append, List.length_cons]
      omega
    rw [hlength, hcs, List.take_left]
    rw [hcs] at h
    simpa using h

/-- **What a label was written with is of the label, a hyphen or a digit.** -/
theorem mem_of_decode? {cs label : List Char} {c : Char} (h : decode? cs = some label)
    (hc : c ∈ cs) : c ∈ label ∨ c = '-' ∨ (value? c).isSome := by
  obtain ⟨hplain, hnumbers⟩ := decodeFrom_keeps h
  rcases mem_splitAtHyphen hc with hc | hc | hc
  · exact .inl (hplain c hc)
  · exact .inr (.inl hc)
  · exact .inr (.inr (hnumbers c hc))

end Text.Punycode

namespace Url

open Text

/-! ### What ends a host -/

theorem endsAuthority_eq_false {c : Char} (p : Char → Bool)
    (hp : ['/', '\\', '?', '#'].all (fun d => !p d) = true) (h : p c = true) :
    endsAuthority c = false := by
  cases hc : endsAuthority c with
  | false => rfl
  | true =>
    simp only [endsAuthority, isSlash, Bool.or_eq_true, beq_iff_eq, or_assoc] at hc
    have hnot := List.all_eq_true.1 hp c (by simpa using hc)
    rw [h] at hnot
    cases hnot

/-- A text in which nothing ends a host. -/
def Unbroken (cs : List Char) : Prop := ∀ c ∈ cs, endsAuthority c = false

namespace Unbroken

theorem nil : Unbroken [] := fun _ hc => absurd hc List.not_mem_nil

theorem cons {c : Char} {cs : List Char} (hc : endsAuthority c = false) (h : Unbroken cs) :
    Unbroken (c :: cs) :=
  List.forall_mem_cons.2 ⟨hc, h⟩

theorem append {cs ds : List Char} (h : Unbroken cs) (h' : Unbroken ds) : Unbroken (cs ++ ds) :=
  List.forall_mem_append.2 ⟨h, h'⟩

theorem intercalate {between : List Char} {texts : List (List Char)} (hbetween : Unbroken between)
    (h : ∀ text ∈ texts, Unbroken text) : Unbroken (between.intercalate texts) := by
  induction texts with
  | nil => exact nil
  | cons text rest ih =>
    obtain ⟨htext, hrest⟩ := List.forall_mem_cons.1 h
    cases rest with
    | nil => simpa [List.intercalate] using htext
    | cons next rest =>
      have hjoined : between.intercalate (text :: next :: rest) =
          text ++ (between ++ between.intercalate (next :: rest)) := by
        simp [List.intercalate]
      rw [hjoined]
      exact htext.append (hbetween.append (ih hrest))

theorem toDigits {radix : Nat} (hradix : 1 < radix) (hle : radix ≤ 16) (n : Nat) :
    Unbroken (Nat.toDigits radix n) := by
  have hdigit : ∀ m < 16, endsAuthority (Nat.digitChar m) = false := by decide
  induction n using Nat.strongRecOn with
  | ind n ih =>
    rw [Nat.toDigits_eq_if hradix]
    split
    · exact cons (hdigit n (by omega)) nil
    · have hmod : n % radix < radix := Nat.mod_lt n (by omega)
      refine (ih (n / radix) (Nat.div_lt_self (by omega) hradix)).append ?_
      exact cons (hdigit _ (by omega)) nil

theorem toString (n : Nat) : Unbroken (ToString.toString n).toList := by
  rw [show (ToString.toString n).toList = Nat.toDigits 10 n from Nat.toList_repr]
  exact toDigits (by decide) (by decide) n

/-- A percent-encoded part in which the ends of a host do not stand for themselves. -/
theorem written {others : String}
    (h : ['/', '\\', '?', '#'].all (fun c => others.toList.contains c) = true) (cs : List Char) :
    Unbroken (Url.written others cs) := by
  intro c hc
  obtain ⟨byte, -, hc⟩ := List.mem_flatMap.1 hc
  split at hc
  · rename_i hplain
    rw [List.mem_singleton] at hc
    refine endsAuthority_eq_false (fun d => !others.toList.contains d) ?_ ?_
    · simpa using h
    · rw [hc]
      simp only [plainBut, Bool.and_eq_true] at hplain
      exact hplain.2
  · have hdigit : ∀ n < 16, endsAuthority (Hex.upper n) = false := by decide
    rcases Percent.mem_escape hc with rfl | ⟨n, hn, rfl⟩
    · decide
    · exact hdigit n hn

/-- A text is unbroken if what it is made of is of an unbroken text, a hyphen or a digit. -/
theorem of_punycode {cs label : List Char} (hlabel : Unbroken label)
    (h : ∀ c ∈ cs, c ∈ label ∨ c = '-' ∨ (Punycode.value? c).isSome) : Unbroken cs := by
  intro c hc
  rcases h c hc with hmem | rfl | hdigit
  · exact hlabel c hmem
  · decide
  · exact endsAuthority_eq_false (fun d => (Punycode.value? d).isSome) (by decide) hdigit

end Unbroken

/-! ### Domain names -/

namespace Domain

theorem unbroken_mark {cs : List Char} (h : Unbroken cs) :
    Unbroken ('x' :: 'n' :: '-' :: '-' :: cs) :=
  .cons (by decide) (.cons (by decide) (.cons (by decide) (.cons (by decide) h)))

theorem unbroken_of_not_forbidden {label : List Char}
    (h : (label.all fun c => !isForbidden c) = true) : Unbroken label := fun c hc =>
  endsAuthority_eq_false (fun d => !isForbidden d) (by decide) (List.all_eq_true.1 h c hc)

/-- The condition of a step that is only taken on a condition. -/
theorem of_guard {α : Type} {p : Prop} [Decidable p] {k : Unit → Option α} {a : α}
    (h : (guard p >>= k) = some a) : p ∧ k () = some a := by
  unfold guard at h
  split at h
  · rename_i hp
    exact ⟨hp, h⟩
  · cases h

theorem decode?_of_unpunycode? {cs label : List Char} (h : unpunycode? cs = some label) :
    Punycode.decode? cs = some label := by
  obtain ⟨-, h⟩ := of_guard h
  obtain ⟨read, hread, h⟩ := Option.bind_eq_some_iff.1 h
  obtain ⟨-, h⟩ := of_guard h
  obtain ⟨-, h⟩ := of_guard h
  cases h
  exact hread

theorem unbroken_labelOf? {cs label : List Char} (h : labelOf? cs = some label) :
    Unbroken label ∧ Unbroken cs := by
  unfold labelOf? at h
  split at h
  · obtain ⟨read, hread, h⟩ := Option.bind_eq_some_iff.1 h
    obtain ⟨hallowed, h⟩ := of_guard h
    obtain ⟨-, h⟩ := of_guard h
    cases h
    have hlabel := unbroken_of_not_forbidden hallowed
    have hwritten := hlabel.of_punycode fun c hc =>
      Punycode.mem_of_decode? (decode?_of_unpunycode? hread) hc
    exact ⟨hlabel, unbroken_mark hwritten⟩
  · obtain ⟨read, hread, h⟩ := Option.bind_eq_some_iff.1 h
    obtain ⟨hallowed, h⟩ := of_guard h
    obtain ⟨-, h⟩ := of_guard h
    cases h
    cases hread
    exact ⟨unbroken_of_not_forbidden hallowed, unbroken_of_not_forbidden hallowed⟩

theorem unbroken_asciiOf? {label ascii : List Char} (hlabel : Unbroken label)
    (h : asciiOf? label = some ascii) : Unbroken ascii := by
  unfold asciiOf? at h
  split at h
  · cases h
    exact hlabel
  split at h
  · cases h
    exact unbroken_mark (hlabel.of_punycode fun c hc => Punycode.mem_encode hc)
  · cases h

theorem unbroken_ofFolded? {cs : List Char} {entry : Entry} (h : Entry.ofFolded? cs = some entry) :
    Unbroken entry.ascii := by
  obtain ⟨label, hlabel, h⟩ := Option.bind_eq_some_iff.1 h
  obtain ⟨ascii, hascii, h⟩ := Option.bind_eq_some_iff.1 h
  cases h
  exact unbroken_asciiOf? (unbroken_labelOf? hlabel).1 hascii

theorem unbroken_ofAscii? {cs : List Char} {entry : Entry} (h : Entry.ofAscii? cs = some entry) :
    Unbroken entry.ascii := by
  obtain ⟨label, hlabel, rfl⟩ := Option.map_eq_some_iff.1 h
  exact (unbroken_labelOf? hlabel).2

/-- What holds of every result of a step holds of all results of taking it for each of a list. -/
theorem forall_of_mapM {α β : Type} {f : α → Option β} {P : β → Prop}
    (hf : ∀ a b, f a = some b → P b) {as : List α} {bs : List β} (h : as.mapM f = some bs) :
    ∀ b ∈ bs, P b := by
  induction as generalizing bs with
  | nil =>
    cases h
    exact fun b hb => absurd hb List.not_mem_nil
  | cons a as ih =>
    rw [List.mapM_cons] at h
    obtain ⟨b, hb, h⟩ := Option.bind_eq_some_iff.1 h
    obtain ⟨rest, hrest, h⟩ := Option.bind_eq_some_iff.1 h
    cases h
    exact List.forall_mem_cons.2 ⟨hf a b hb, ih hrest⟩

theorem unbroken_ofWritten? {cs : List Char} {entries : List Entry}
    (h : Entry.ofWritten? cs = some entries) : ∀ entry ∈ entries, Unbroken entry.ascii := by
  obtain ⟨folded, -, h⟩ := Option.bind_eq_some_iff.1 h
  dsimp only at h
  split at h
  · obtain ⟨entry, hentry, h⟩ := Option.bind_eq_some_iff.1 h
    cases h
    exact List.forall_mem_singleton.2 (unbroken_ofAscii? hentry)
  · exact forall_of_mapM (fun _ _ => unbroken_ofFolded?) h

/-- **The ASCII form of a domain name is unbroken.** -/
theorem unbroken_toAscii? {name ascii : String} (h : toAscii? name = some ascii) :
    Unbroken ascii.toList := by
  obtain ⟨entries, hentries, h⟩ := Option.bind_eq_some_iff.1 h
  obtain ⟨-, h⟩ := of_guard h
  cases h
  rw [String.toList_intercalate]
  refine .intercalate (.cons (by decide) .nil) ?_
  simp only [List.map_map, List.mem_map, List.mem_flatten, forall_exists_index, and_imp,
    Function.comp_apply, String.toList_ofList]
  rintro text entry group hgroup hentry rfl
  exact forall_of_mapM (P := fun group : List Entry => ∀ entry ∈ group, Unbroken entry.ascii)
    (fun _ _ => unbroken_ofWritten?) hentries group hgroup entry hentry

end Domain

/-! ### Addresses -/

theorem Ipv4.unbroken_text (address : Ipv4) : Unbroken address.text.toList := by
  have hpoint : Unbroken ".".toList := .cons (by decide) .nil
  have hbyte := Unbroken.toString
  rw [Ipv4.text]
  simp only [String.toList_append]
  exact ((((((hbyte _).append hpoint).append (hbyte _)).append hpoint).append (hbyte _)).append
    hpoint).append (hbyte _)

theorem Ipv6.unbroken_runText (ns : List Nat) : Unbroken (Ipv6.runText ns).toList := by
  rw [Ipv6.runText, String.toList_intercalate]
  refine .intercalate (.cons (by decide) .nil) ?_
  simp only [List.map_map, List.mem_map, forall_exists_index, and_imp, Function.comp_apply]
  rintro text n - rfl
  rw [Ipv6.pieceText, String.toList_ofList]
  exact .toDigits (by decide) (by decide) n

theorem Ipv6.unbroken_text (address : Ipv6) : Unbroken address.text.toList := by
  unfold Ipv6.text
  split
  split
  · exact unbroken_runText _
  · rw [String.toList_append, String.toList_append]
    exact ((unbroken_runText _).append (.cons (by decide) (.cons (by decide) .nil))).append
      (unbroken_runText _)

/-- A host that is a domain name is one in ASCII form. -/
theorem Host.toAscii?_of_parse {cs : List Char} {name : String}
    (h : Host.parse cs = .ok (.domain name)) : ∃ given, Domain.toAscii? given = some name := by
  have hparsed : ∀ {ε α : Type} {x : Except ε α} {f : α → Host}, (∀ a, f a ≠ .domain name) →
      x.map f ≠ .ok (.domain name) := by
    rintro ε α (_ | a) f hf heq
    · cases heq
    · exact hf a (Except.ok.inj heq)
  unfold parse at h
  split at h
  · cases h
  · split at h
    · exact absurd h (hparsed nofun)
    · cases h
  · unfold parseName at h
    dsimp only at h
    split at h
    · cases h
    rename_i ascii hascii
    split at h
    · cases h
    split at h
    · exact absurd h (hparsed nofun)
    · cases h
      exact ⟨_, hascii⟩

/-- **A host is written without anything that ends it.** -/
theorem Host.unbroken_text {cs : List Char} {host : Host} (h : Host.parse cs = .ok host) :
    Unbroken host.text.toList := by
  cases host with
  | domain name =>
    obtain ⟨given, hgiven⟩ := Host.toAscii?_of_parse h
    exact Domain.unbroken_toAscii? hgiven
  | ipv4 address => exact address.unbroken_text
  | ipv6 address =>
    have htext : (Host.ipv6 address).text.toList = '[' :: (address.text.toList ++ [']']) := by
      rw [Host.text]
      simp only [String.toList_append]
      rfl
    rw [htext]
    exact .cons (by decide) (address.unbroken_text.append (.cons (by decide) .nil))

/-! ### Whole URLs -/

/-- What stands before the path of a URL. -/
def authority (url : Url) : List Char :=
  url.login ++ url.host.text.toList ++
    marked ':' (url.port.map fun port => (toString port).toList)

theorem base_eq (url : Url) : url.base = "ws://".toList ++ (url.authority ++ url.path) := by
  unfold base authority
  simp only [List.append_assoc]

/-- User, password and host of a URL that was read. -/
theorem parse_spec {cs : List Char} {url : Url} (h : parse cs = .ok url) :
    ∃ user password host, url.user = written userSet user ∧
      url.password = written userSet password ∧ Host.parse host = .ok url.host := by
  unfold parse at h
  dsimp only at h
  obtain ⟨host, hhost, h⟩ := Json.ok_of_bind h
  obtain ⟨port, -, h⟩ := Json.ok_of_bind h
  obtain rfl := Except.ok.inj h
  dsimp only
  exact ⟨_, _, _, rfl, rfl, hhost⟩

theorem unbroken_login {url : Url} (huser : Unbroken url.user) (hpassword : Unbroken url.password) :
    Unbroken url.login := by
  have hat : endsAuthority '@' = false := by decide
  have hcolon : endsAuthority ':' = false := by decide
  unfold login
  split
  · exact .nil
  · refine .append (.append huser ?_) (.cons hat .nil)
    split
    · exact .nil
    · exact .cons hcolon hpassword

/-- **Nothing before the path of a URL that was read ends it early.** -/
theorem unbroken_authority {cs : List Char} {url : Url} (h : parse cs = .ok url) :
    Unbroken url.authority := by
  have hset : ['/', '\\', '?', '#'].all (fun c => userSet.toList.contains c) = true := by decide
  have hcolon : endsAuthority ':' = false := by decide
  obtain ⟨user, password, host, huser, hpassword, hhost⟩ := parse_spec h
  have hlogin : Unbroken url.login :=
    unbroken_login (huser ▸ .written hset user) (hpassword ▸ .written hset password)
  refine .append (.append hlogin (Host.unbroken_text hhost)) ?_
  cases url.port with
  | none => exact .nil
  | some port => exact .cons hcolon (.toString port)

end Url

end BroadcastChat
