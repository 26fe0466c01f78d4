/-
# Readers that take exactly one value

A reader that gives a value took the tokens of one JSON value off the front, and
would take them as the same value whatever followed (`Json.Reader.Exact`). For
such readers it is enough to know which values they take: a record takes the
objects in which each of its fields stands once or has a fallback, among any
other members, and the arrays of its fields in order. A whole text is read
exactly when it writes the tokens of such a value.

Key definitions: `Json.Reader.Exact`, `Json.values`, `Json.Field.Filled`,
`Json.IsRecord`.
Key theorems: `Json.Reader.object_iff`, `Json.Reader.reads_record₂_iff`,
`Json.Reader.exact_record₂`, `Json.Reader.Exact.read_iff`.
-/
import BroadcastChat.Proofs.Checked
import BroadcastChat.Proofs.Grammar
import BroadcastChat.Proofs.Lexemes

namespace BroadcastChat.Json

/-! ### What is taken -/

namespace Reader

/-- What the reader takes is one value, and it takes it whatever follows. -/
structure Exact {α : Type} (reader : Reader α) : Prop where
  front {ts rest : List Token} {a : α} (h : reader.run ts = .ok (a, rest)) :
    ∃ front, ts = front ++ rest ∧ Reads reader front a
  value {ts : List Token} {a : α} (h : Reads reader ts a) : IsValue ts

variable {α β σ : Type} {reader : Reader α} {ts us rest : List Token} {a : α} {b : β}

theorem Exact.reads (hreader : Exact reader) (h : reader.run ts = .ok (a, [])) :
    Reads reader ts a := by
  obtain ⟨front, rfl, hreads⟩ := hreader.front h
  rwa [List.append_nil]

theorem reads_text_iff {value : String} : Reads text ts value ↔ ts = [.text (some value)] := by
  constructor
  · intro h
    have hrun := h []
    rw [List.append_nil] at hrun
    simp only [text] at hrun
    split at hrun
    · cases hrun
      rfl
    · cases hrun
  · rintro rfl
    exact reads_text value

theorem exact_text : Exact text where
  front {ts rest value} h := by
    simp only [text] at h
    split at h
    · cases h
      exact ⟨[.text (some value)], rfl, reads_text value⟩
    · cases h
  value {ts value} h := by
    rw [reads_text_iff.1 h]
    exact .scalar rfl

theorem reads_anything_iff {u : Unit} : Reads anything ts u ↔ IsValue ts := by
  constructor
  · intro h
    have hrun := h []
    cases hpass : pass .value [] (ts ++ []) with
    | error fault =>
      simp only [anything, hpass] at hrun
      cases hrun
    | ok rest =>
      simp only [anything, hpass] at hrun
      cases hrun
      obtain ⟨value, hvalue, heq⟩ := pass_iff.1 hpass
      rw [List.append_nil, List.append_nil] at heq
      rwa [heq]
  · intro h rest
    simp only [anything, pass_iff.2 ⟨ts, h, rfl⟩]
    rfl

theorem exact_anything : Exact anything where
  front {ts rest u} h := by
    cases hpass : pass .value [] ts with
    | error fault =>
      simp only [anything, hpass] at h
      cases h
    | ok rest' =>
      simp only [anything, hpass] at h
      cases h
      obtain ⟨value, hvalue, rfl⟩ := pass_iff.1 hpass
      exact ⟨value, rfl, reads_anything_iff.2 hvalue⟩
  value h := reads_anything_iff.1 h

/-- A checking reader takes what the reader takes whose result passes the check. -/
theorem reads_refine_iff (hreader : Exact reader) {check : α → Except LimitError β} :
    Reads (reader.refine check) ts b ↔ ∃ a, Reads reader ts a ∧ check a = .ok b := by
  constructor
  · intro h
    obtain ⟨⟨a, tail⟩, hrun, hcheck⟩ := ok_of_bind (h [])
    rw [List.append_nil] at hrun
    dsimp only at hcheck
    split at hcheck
    · rename_i b' hok
      cases hcheck
      exact ⟨a, hreader.reads hrun, hok⟩
    · cases hcheck
  · rintro ⟨a, hreads, hok⟩
    exact hreads.refine hok

theorem Exact.refine (hreader : Exact reader) (check : α → Except LimitError β) :
    Exact (reader.refine check) where
  front {ts rest b} h := by
    obtain ⟨⟨a, tail⟩, hrun, hcheck⟩ := ok_of_bind h
    dsimp only at hcheck
    split at hcheck
    · rename_i b' hok
      cases hcheck
      obtain ⟨front, rfl, hreads⟩ := hreader.front hrun
      exact ⟨front, rfl, hreads.refine hok⟩
    · cases hcheck
  value h := by
    obtain ⟨a, hreads, -⟩ := (reads_refine_iff hreader).1 h
    exact hreader.value hreads

theorem Exact.map (hreader : Exact reader) (f : α → β) : Exact (reader.map f) := hreader.refine _

theorem reads_map_iff (hreader : Exact reader) {f : α → β} :
    Reads (reader.map f) ts b ↔ ∃ a, Reads reader ts a ∧ f a = b := by
  rw [Reader.map, reads_refine_iff hreader]
  simp only [Except.ok.injEq]

/-! ### Members -/

/-- How the members of an object lead from one state to the next. -/
def Collected (slot : String → σ → Except Fault (Reader σ)) :
    σ → List (String × List Token) → σ → Prop
  | state, [], out => out = state
  | state, (key, ts) :: members, out => ∃ reader after, slot key state = .ok reader ∧
      Reads reader ts after ∧ Collected slot after members out

/-- The tokens behind a member's value, up to the end of the object. -/
def moreMembers : List (String × List Token) → List Token
  | [] => [.closeObject]
  | m :: ms => .comma :: .text (some m.1) :: .colon :: (m.2 ++ moreMembers ms)

theorem objectTokens_cons (m : String × List Token) (ms : List (String × List Token)) :
    objectTokens (m :: ms) =
      .openObject :: .text (some m.1) :: .colon :: (m.2 ++ moreMembers ms) := by
  induction ms generalizing m with
  | nil => simp [objectTokens, moreMembers]
  | cons next ms ih =>
    have hnext := ih next
    simp only [objectTokens, List.map_cons, List.intercalate_cons_cons, List.cons_append,
      List.append_assoc, List.cons.injEq, true_and, List.nil_append] at hnext ⊢
    rw [hnext]
    rfl

section

variable {slot : String → σ → Except Fault (Reader σ)} {state out : σ}

theorem members_of_collected {m : String × List Token} {ms : List (String × List Token)}
    (h : Collected slot state (m :: ms) out) (rest : List Token) :
    members slot state (.text (some m.1) :: .colon :: m.2 ++ (moreMembers ms ++ rest)) =
      .ok (out, rest) := by
  induction ms generalizing m state with
  | nil =>
    obtain ⟨reader, after, hslot, hreads, rfl⟩ := h
    exact members_member hslot hreads _
  | cons next ms ih =>
    obtain ⟨reader, after, hslot, hreads, hrest⟩ := h
    rw [members_member hslot hreads]
    simpa [moreMembers] using ih hrest

theorem expect_iff {token : Token} : expect token ts = .ok rest ↔ ts = token :: rest := by
  cases ts with
  | nil => simp [expect]
  | cons t ts =>
    simp only [expect, List.cons.injEq]
    split <;> simp_all

/-- Members that were read are collected one by one. -/
theorem collected_of_members
    (hexact : ∀ key state reader, slot key state = .ok reader → Exact reader)
    (h : members slot state ts = .ok (out, rest)) :
    ∃ m ms, Collected slot state (m :: ms) out ∧
      ts = .text (some m.1) :: .colon :: m.2 ++ (moreMembers ms ++ rest) := by
  fun_induction members slot state ts with
  | case4 state key ts reader hslot value hcolon after tail hrun =>
    cases h
    obtain ⟨front, rfl, hreads⟩ := (hexact _ _ _ hslot).front hrun
    obtain rfl := expect_iff.1 hcolon
    exact ⟨(key, front), [], ⟨reader, _, hslot, hreads, rfl⟩, rfl⟩
  | case5 state key ts reader hslot value hcolon after tail hrun _ _ ih =>
    obtain ⟨front, rfl, hreads⟩ := (hexact _ _ _ hslot).front hrun
    obtain rfl := expect_iff.1 hcolon
    obtain ⟨m, ms, hcollected, rfl⟩ := ih h
    refine ⟨(key, front), m :: ms, ⟨reader, after, hslot, hreads, hcollected⟩, ?_⟩
    simp [moreMembers]
  | _ => cases h

/-- **An object is read exactly when its members are collected one by one.** -/
theorem object_iff (hexact : ∀ key state reader, slot key state = .ok reader → Exact reader) :
    object slot state ts = .ok (out, rest) ↔
      ∃ ms, Collected slot state ms out ∧ .openObject :: ts = objectTokens ms ++ rest := by
  constructor
  · intro h
    unfold object at h
    split at h
    · cases h
      exact ⟨[], rfl, rfl⟩
    · obtain ⟨m, ms, hcollected, rfl⟩ := collected_of_members hexact h
      refine ⟨m :: ms, hcollected, ?_⟩
      rw [objectTokens_cons]
      simp
  · rintro ⟨ms, hcollected, htokens⟩
    cases ms with
    | nil =>
      obtain rfl := (List.cons.inj htokens).2
      obtain rfl := hcollected
      rfl
    | cons m ms =>
      obtain rfl : ts = .text (some m.1) :: .colon :: m.2 ++ (moreMembers ms ++ rest) := by
        simpa [objectTokens_cons] using htokens
      exact members_of_collected hcollected rest

end

theorem moreMembers_inj {ms ms' : List (String × List Token)} (h : ∀ m ∈ ms, IsValue m.2)
    (h' : ∀ m ∈ ms', IsValue m.2) (heq : moreMembers ms = moreMembers ms') : ms = ms' := by
  induction ms generalizing ms' with
  | nil =>
    cases ms' with
    | nil => rfl
    | cons m' ms' => cases heq
  | cons m ms ih =>
    cases ms' with
    | nil => cases heq
    | cons m' ms' =>
      obtain ⟨hvalue, hvalues⟩ := List.forall_mem_cons.1 h
      obtain ⟨hvalue', hvalues'⟩ := List.forall_mem_cons.1 h'
      simp only [moreMembers, List.cons.injEq, Token.text.injEq, Option.some.injEq, true_and] at heq
      obtain ⟨hts, hmore⟩ := hvalue.append_inj hvalue' heq.2
      rw [Prod.ext heq.1 hts, ih hvalues hvalues' hmore]

/-- **The members of an object are all in its tokens**, if their values are well-formed. -/
theorem objectTokens_inj {ms ms' : List (String × List Token)} (h : ∀ m ∈ ms, IsValue m.2)
    (h' : ∀ m ∈ ms', IsValue m.2) (heq : objectTokens ms = objectTokens ms') : ms = ms' := by
  cases ms with
  | nil =>
    cases ms' with
    | nil => rfl
    | cons m' ms' =>
      rw [objectTokens_cons] at heq
      cases heq
  | cons m ms =>
    cases ms' with
    | nil =>
      rw [objectTokens_cons] at heq
      cases heq
    | cons m' ms' =>
      rw [objectTokens_cons, objectTokens_cons] at heq
      refine moreMembers_inj h h' ?_
      rw [moreMembers, moreMembers]
      exact congrArg _ (List.cons.inj heq).2

/-! ### Fields of a record -/

end Reader

/-- The values of the members with this name. -/
def values (key : String) (members : List (String × List Token)) : List (List Token) :=
  (members.filter fun m => m.1 = key).map Prod.snd

section

variable {key : String} {ts : List Token} {m : String × List Token}
  {ms : List (String × List Token)}

@[simp] theorem values_cons_self : values key ((key, ts) :: ms) = ts :: values key ms := by
  simp [values]

theorem values_cons_of_ne (h : m.1 ≠ key) : values key (m :: ms) = values key ms := by
  simp [values, h]

end

namespace Field

variable {α : Type} {field : Field α} {before after : Option α} {ts : List Token}
  {m : String × List Token} {ms : List (String × List Token)}

/-- What a field's value is behind these members: what it was before, or what one of them says. -/
def Gathered (field : Field α) (before : Option α) (ms : List (String × List Token))
    (after : Option α) : Prop :=
  ∃ found, List.Forall₂ (Reader.Reads field.reader) (values field.key ms) found ∧
    after.toList = before.toList ++ found

theorem gathered_nil : field.Gathered before [] after ↔ after = before := by
  constructor
  · rintro ⟨found, hfound, hafter⟩
    cases hfound
    rw [List.append_nil] at hafter
    cases after <;> cases before <;> simp_all
  · rintro rfl
    exact ⟨[], .nil, (List.append_nil _).symm⟩

theorem gathered_cons_self : field.Gathered before ((field.key, ts) :: ms) after ↔
    ∃ a, before = none ∧ Reader.Reads field.reader ts a ∧ field.Gathered (some a) ms after := by
  rw [Gathered, values_cons_self]
  constructor
  · rintro ⟨found, hfound, hafter⟩
    obtain ⟨a, found', hreads, hrest, rfl⟩ := List.forall₂_cons_left_iff.1 hfound
    cases before with
    | none => exact ⟨a, rfl, hreads, found', hrest, hafter⟩
    | some b =>
      -- a second value does not fit in
      have hlength := congrArg List.length hafter
      cases after <;> simp at hlength
  · rintro ⟨a, rfl, hreads, found, hfound, hafter⟩
    exact ⟨a :: found, .cons hreads hfound, hafter⟩

theorem gathered_cons_of_ne (h : m.1 ≠ field.key) :
    field.Gathered before (m :: ms) after ↔ field.Gathered before ms after := by
  rw [Gathered, values_cons_of_ne h, Gathered]

/-- The field stands once among these members with this value, or not at all if this is what stands
for it then. -/
def Filled (field : Field α) (ms : List (String × List Token)) (a : α) : Prop :=
  (∃ ts, values field.key ms = [ts] ∧ Reader.Reads field.reader ts a) ∨
    values field.key ms = [] ∧ field.fallback = some a

theorem settle_iff {value : Option α} {a : α} :
    field.settle value = .ok a ↔ value = some a ∨ value = none ∧ field.fallback = some a := by
  unfold settle
  cases value with
  | some b => simp
  | none => cases field.fallback <;> simp

theorem filled_iff {a : α} :
    field.Filled ms a ↔ ∃ value, field.Gathered none ms value ∧ field.settle value = .ok a := by
  simp only [settle_iff]
  constructor
  · rintro (⟨ts, hvalues, hreads⟩ | ⟨hvalues, hfallback⟩)
    · refine ⟨some a, ⟨[a], ?_, rfl⟩, .inl rfl⟩
      rw [hvalues]
      exact .cons hreads .nil
    · refine ⟨none, ⟨[], ?_, rfl⟩, .inr ⟨rfl, hfallback⟩⟩
      rw [hvalues]
      exact .nil
  · rintro ⟨value, ⟨found, hfound, hvalue⟩, rfl | ⟨rfl, hfallback⟩⟩
    · obtain rfl : [a] = found := hvalue
      obtain ⟨ts, rest, hreads, hnil, hvalues⟩ := List.forall₂_cons_right_iff.1 hfound
      cases hnil
      exact .inl ⟨ts, hvalues, hreads⟩
    · obtain rfl : [] = found := hvalue
      exact .inr ⟨List.forall₂_nil_right_iff.1 hfound, hfallback⟩

end Field

namespace Reader

variable {α β : Type} {f : Field α} {g : Field β} {ts rest : List Token}
  {ms : List (String × List Token)} {state out : Option α × Option β} {a : α} {b : β}

/-- A member that is a field's leads on to the state with its value, if it is the first. -/
theorem collected_field {σ γ : Type} {slot : String → σ → Except Fault (Reader σ)} {key : String}
    {state out : σ} {field : Field γ} {before : Option γ} {next : γ → σ}
    (hfield : Exact field.reader)
    (hslot : slot key state = (field.slot before).map (Reader.map next)) :
    Collected slot state ((key, ts) :: ms) out ↔
      ∃ c, before = none ∧ Reads field.reader ts c ∧ Collected slot (next c) ms out := by
  rw [Collected, hslot]
  constructor
  · rintro ⟨reader, after, hreader, hreads, hrest⟩
    cases before with
    | some c => cases hreader
    | none =>
      cases hreader
      obtain ⟨c, hc, rfl⟩ := (reads_map_iff hfield).1 hreads
      exact ⟨c, rfl, hc, hrest⟩
  · rintro ⟨c, rfl, hreads, hrest⟩
    exact ⟨_, next c, rfl, hreads.map next, hrest⟩

theorem collected_other {σ : Type} {slot : String → σ → Except Fault (Reader σ)} {key : String}
    {state out : σ} (hslot : slot key state = .ok (anything.map fun _ => state)) :
    Collected slot state ((key, ts) :: ms) out ↔ IsValue ts ∧ Collected slot state ms out := by
  rw [Collected, hslot]
  constructor
  · rintro ⟨reader, after, hreader, hreads, hrest⟩
    cases hreader
    obtain ⟨u, hu, rfl⟩ := (reads_map_iff exact_anything).1 hreads
    exact ⟨reads_anything_iff.1 hu, hrest⟩
  · rintro ⟨hvalue, hrest⟩
    exact ⟨_, state, rfl, (reads_anything_iff (u := ()) |>.2 hvalue).map _, hrest⟩

/-- **The members of a record of two fields**: what each field gathers, and well-formed values. -/
theorem collected_slot₂_iff (hkeys : g.key ≠ f.key) (hf : Exact f.reader) (hg : Exact g.reader) :
    Collected (slot₂ f g) state ms out ↔
      f.Gathered state.1 ms out.1 ∧ g.Gathered state.2 ms out.2 ∧ ∀ m ∈ ms, IsValue m.2 := by
  induction ms generalizing state with
  | nil =>
    rw [Field.gathered_nil, Field.gathered_nil, Collected, Prod.ext_iff]
    simp
  | cons m ms ih =>
    obtain ⟨key, ts⟩ := m
    by_cases hfirst : key = f.key
    · subst hfirst
      have hslot : slot₂ f g f.key state =
          (f.slot state.1).map (Reader.map fun a => (some a, state.2)) := if_pos rfl
      rw [collected_field hf hslot, Field.gathered_cons_self,
        Field.gathered_cons_of_ne (Ne.symm hkeys), List.forall_mem_cons]
      simp only [ih]
      constructor
      · rintro ⟨a, hnone, hreads, hgathered, hother, hvalues⟩
        exact ⟨⟨a, hnone, hreads, hgathered⟩, hother, hf.value hreads, hvalues⟩
      · rintro ⟨⟨a, hnone, hreads, hgathered⟩, hother, -, hvalues⟩
        exact ⟨a, hnone, hreads, hgathered, hother, hvalues⟩
    by_cases hsecond : key = g.key
    · subst hsecond
      have hslot : slot₂ f g g.key state =
          (g.slot state.2).map (Reader.map fun b => (state.1, some b)) :=
        (if_neg hkeys).trans (if_pos rfl)
      rw [collected_field hg hslot, Field.gathered_cons_self,
        Field.gathered_cons_of_ne hkeys, List.forall_mem_cons]
      simp only [ih]
      constructor
      · rintro ⟨b, hnone, hreads, hother, hgathered, hvalues⟩
        exact ⟨hother, ⟨b, hnone, hreads, hgathered⟩, hg.value hreads, hvalues⟩
      · rintro ⟨hother, ⟨b, hnone, hreads, hgathered⟩, -, hvalues⟩
        exact ⟨b, hnone, hreads, hother, hgathered, hvalues⟩
    · have hslot : slot₂ f g key state = .ok (anything.map fun _ => state) :=
        (if_neg hfirst).trans (if_neg hsecond)
      rw [collected_other hslot, Field.gathered_cons_of_ne hfirst,
        Field.gathered_cons_of_ne hsecond, List.forall_mem_cons, ih]
      constructor
      · rintro ⟨hvalue, hgathered, hother, hvalues⟩
        exact ⟨hgathered, hother, hvalue, hvalues⟩
      · rintro ⟨hgathered, hother, hvalue, hvalues⟩
        exact ⟨hvalue, hgathered, hother, hvalues⟩

theorem exact_slot₂ (hf : Exact f.reader) (hg : Exact g.reader) (key : String)
    (state : Option α × Option β) (reader : Reader (Option α × Option β))
    (h : slot₂ f g key state = .ok reader) : Exact reader := by
  unfold slot₂ Field.slot at h
  split_ifs at h
  all_goals cases h
  · exact hf.map _
  · exact hg.map _
  · exact exact_anything.map _

/-- **A record is read from the objects in which each of its fields stands once**, or not at all
where it has a fallback, and all values are well-formed. -/
theorem object₂_iff (hkeys : g.key ≠ f.key) (hf : Exact f.reader) (hg : Exact g.reader) :
    object₂ f g ts = .ok ((a, b), rest) ↔
      ∃ ms, .openObject :: ts = objectTokens ms ++ rest ∧ (∀ m ∈ ms, IsValue m.2) ∧
        f.Filled ms a ∧ g.Filled ms b := by
  constructor
  · intro h
    obtain ⟨⟨state, tail⟩, hobject, h⟩ := ok_of_bind h
    obtain ⟨a', ha, h⟩ := ok_of_bind h
    obtain ⟨b', hb, h⟩ := ok_of_bind h
    cases h
    obtain ⟨ms, hcollected, htokens⟩ := (object_iff (exact_slot₂ hf hg)).1 hobject
    obtain ⟨hfirst, hsecond, hvalues⟩ := (collected_slot₂_iff hkeys hf hg).1 hcollected
    exact ⟨ms, htokens, hvalues, Field.filled_iff.2 ⟨_, hfirst, ha⟩,
      Field.filled_iff.2 ⟨_, hsecond, hb⟩⟩
  · rintro ⟨ms, htokens, hvalues, hfirst, hsecond⟩
    obtain ⟨va, hva, ha⟩ := Field.filled_iff.1 hfirst
    obtain ⟨vb, hvb, hb⟩ := Field.filled_iff.1 hsecond
    have hcollected : Collected (slot₂ f g) (none, none) ms (va, vb) :=
      (collected_slot₂_iff hkeys hf hg).2 ⟨hva, hvb, hvalues⟩
    have hobject := (object_iff (exact_slot₂ hf hg)).2 ⟨ms, hcollected, htokens⟩
    rw [object₂, hobject]
    change (f.settle va >>= _) = _
    rw [ha]
    change (g.settle vb >>= _) = _
    rw [hb]
    rfl

/-! ### Records as arrays -/

/-- An array ends with its bracket or goes on with a token that is none, behind a comma unless it
is the first. -/
theorem nextItem_iff {first : Bool} {next : Option (List Token)} :
    nextItem first ts = .ok next ↔
      (next = none ∧ ∃ tail, ts = .closeArray :: tail) ∨
        ∃ t tail, next = some (t :: tail) ∧ t ≠ .closeArray ∧
          ts = (if first then [] else [.comma]) ++ t :: tail := by
  constructor
  · intro h
    unfold nextItem at h
    split at h
    · cases h
    · cases h
      exact .inl ⟨rfl, _, rfl⟩
    · rename_i t tail hclose
      have hne : t ≠ .closeArray := fun heq => hclose heq
      split at h
      · rename_i hfirst
        cases h
        exact .inr ⟨t, tail, rfl, hne, by simp [hfirst]⟩
      · rename_i hfirst
        split at h
        · rename_i hcomma
          split at h
          · cases h
          · cases h
          · rename_i hnil hnone
            cases h
            cases tail with
            | nil => exact absurd rfl hnil
            | cons u tail =>
              exact .inr ⟨u, tail, rfl, fun heq => hnone tail (heq ▸ rfl), by simp [hfirst, hcomma]⟩
        · cases h
  · rintro (⟨rfl, tail, rfl⟩ | ⟨t, tail, rfl, hne, rfl⟩)
    · rfl
    · cases first with
      | true => simp [nextItem]
      | false => simp [nextItem, hne]

theorem item_iff (hf : Exact f.reader) {first : Bool} {value : Option α} :
    f.item first ts = .ok (value, rest) ↔
      (value = none ∧ rest = ts ∧ ∃ tail, ts = .closeArray :: tail) ∨
        ∃ a front, value = some a ∧ Reads f.reader front a ∧
          ts = (if first then [] else [.comma]) ++ (front ++ rest) := by
  constructor
  · intro h
    unfold Field.item at h
    split at h
    · cases h
    · rename_i hnext
      cases h
      obtain ⟨-, hclose⟩ | ⟨t, tail, hcontra, -⟩ := nextItem_iff.1 hnext
      · exact .inl ⟨rfl, rfl, hclose⟩
      · cases hcontra
    · rename_i behind hnext
      obtain ⟨hcontra, -⟩ | ⟨t, tail, hbehind, -, rfl⟩ := nextItem_iff.1 hnext
      · cases hcontra
      cases hbehind
      cases hrun : f.reader.run (t :: tail) with
      | error fault =>
        rw [hrun] at h
        cases h
      | ok pair =>
        rw [hrun] at h
        cases h
        obtain ⟨front, hfront, hreads⟩ := hf.front hrun
        exact .inr ⟨_, front, rfl, hreads, by rw [hfront]⟩
  · rintro (⟨rfl, rfl, tail, rfl⟩ | ⟨a, front, rfl, hreads, rfl⟩)
    · rfl
    · -- what is read is a value, so it does not start with the bracket
      obtain ⟨t, tail, rfl, hne⟩ := (hf.value hreads).exists_cons
      have hnext : nextItem first ((if first then [] else [.comma]) ++ (t :: tail ++ rest)) =
          .ok (some (t :: tail ++ rest)) :=
        nextItem_iff.2 (.inr ⟨t, tail ++ rest, rfl, hne .array, rfl⟩)
      rw [Field.item, hnext]
      dsimp only
      rw [hreads rest]
      rfl

end Reader

/-- The fields of a record in order, the last ones left out if they have a fallback. -/
inductive Listed {α β : Type} (f : Field α) (g : Field β) : List (List Token) → α → β → Prop
  | nil {a : α} {b : β} (hf : f.fallback = some a) (hg : g.fallback = some b) : Listed f g [] a b
  | first {ts : List Token} {a : α} {b : β} (hf : Reader.Reads f.reader ts a)
    (hg : g.fallback = some b) : Listed f g [ts] a b
  | both {ts us : List Token} {a : α} {b : β} (hf : Reader.Reads f.reader ts a)
    (hg : Reader.Reads g.reader us b) : Listed f g [ts, us] a b

/-- The tokens of a record of two fields with these values. -/
inductive IsRecord {α β : Type} (f : Field α) (g : Field β) (a : α) (b : β) : List Token → Prop
  | object {ms : List (String × List Token)} (hvalues : ∀ m ∈ ms, IsValue m.2)
    (hf : f.Filled ms a) (hg : g.Filled ms b) : IsRecord f g a b (objectTokens ms)
  | array {items : List (List Token)} (h : Listed f g items a b) :
    IsRecord f g a b (Bracket.array.tokens items)

namespace Reader

variable {α β : Type} {f : Field α} {g : Field β} {ts rest : List Token} {a : α} {b : β}

theorem array₂_ok_iff : array₂ f g ts = .ok ((a, b), rest) ↔
    ∃ va behind vb, f.item true ts = .ok (va, behind) ∧ f.settle va = .ok a ∧
      g.item false behind = .ok (vb, .closeArray :: rest) ∧ g.settle vb = .ok b := by
  constructor
  · intro h
    obtain ⟨⟨va, behind⟩, hva, h⟩ := ok_of_bind h
    obtain ⟨a', ha, h⟩ := ok_of_bind h
    obtain ⟨⟨vb, behind'⟩, hvb, h⟩ := ok_of_bind h
    obtain ⟨b', hb, h⟩ := ok_of_bind h
    obtain ⟨last, hend, h⟩ := ok_of_bind h
    cases h
    obtain rfl := expect_iff.1 hend
    exact ⟨va, behind, vb, hva, ha, hvb, hb⟩
  · rintro ⟨va, behind, vb, hva, ha, hvb, hb⟩
    simp [array₂, hva, ha, hvb, hb, expect, bind, Except.bind, pure, Except.pure]

/-- **A record is read from the arrays of its fields in order**, the last ones left out where they
have a fallback. -/
theorem array₂_iff (hf : Exact f.reader) (hg : Exact g.reader) :
    array₂ f g ts = .ok ((a, b), rest) ↔
      ∃ items, .openArray :: ts = Bracket.array.tokens items ++ rest ∧ Listed f g items a b := by
  rw [array₂_ok_iff]
  simp only [item_iff hf, item_iff hg, Field.settle_iff]
  constructor
  · rintro ⟨va, behind, vb, ⟨rfl, rfl, tail, rfl⟩ | ⟨a', front, rfl, hfront, rfl⟩, ha, hvb, hb⟩
    · obtain ⟨rfl, heq, -⟩ | ⟨b', front, -, -, hcontra⟩ := hvb
      · cases heq
        exact ⟨[], rfl, .nil (by simpa using ha) (by simpa using hb)⟩
      · cases hcontra
    · obtain rfl : a' = a := by simpa using ha
      obtain ⟨rfl, rfl, -⟩ | ⟨b', front', rfl, hfront', rfl⟩ := hvb
      · exact ⟨[front], by simp [Bracket.tokens, Bracket.opener, Bracket.closer],
          .first hfront (by simpa using hb)⟩
      · obtain rfl : b' = b := by simpa using hb
        exact ⟨[front, front'], by simp [Bracket.tokens, Bracket.opener, Bracket.closer],
          .both hfront hfront'⟩
  · rintro ⟨items, htokens, hlisted⟩
    obtain rfl := (List.cons.inj htokens).2
    cases hlisted with
    | nil hfa hgb =>
      exact ⟨none, _, none, .inl ⟨rfl, rfl, rest, rfl⟩, .inr ⟨rfl, hfa⟩, .inl ⟨rfl, rfl, rest, rfl⟩,
        .inr ⟨rfl, hgb⟩⟩
    | @first ts a b hfa hgb =>
      refine ⟨some a, .closeArray :: rest, none, .inr ⟨a, ts, rfl, hfa, ?_⟩, .inl rfl,
        .inl ⟨rfl, rfl, rest, rfl⟩, .inr ⟨rfl, hgb⟩⟩
      simp [Bracket.closer]
    | @both ts us a b hfa hgb =>
      refine ⟨some a, .comma :: (us ++ .closeArray :: rest), some b, .inr ⟨a, ts, rfl, hfa, ?_⟩,
        .inl rfl, .inr ⟨b, us, rfl, hgb, rfl⟩, .inl rfl⟩
      simp [Bracket.closer]

theorem isValue_of_isRecord (hf : Exact f.reader) (hg : Exact g.reader) (h : IsRecord f g a b ts) :
    IsValue ts := by
  cases h with
  | @object ms hvalues _ _ =>
    have hobject : IsValue (Bracket.object.tokens
        ((ms.map fun m => (some m.1, m.2)).map memberTokens)) := by
      refine .object fun member hmember => ?_
      obtain ⟨m, hm, rfl⟩ := List.mem_map.1 hmember
      exact hvalues m hm
    have htokens : objectTokens ms = Bracket.object.tokens
        ((ms.map fun m => (some m.1, m.2)).map memberTokens) := by
      simp [objectTokens, Bracket.tokens, Bracket.opener, Bracket.closer, memberTokens,
        Function.comp_def]
    rwa [htokens]
  | array h =>
    cases h with
    | nil _ _ => exact .array (List.forall_mem_nil _)
    | first hfa _ => exact .array (List.forall_mem_singleton.2 (hf.value hfa))
    | both hfa hgb =>
      exact .array
        (List.forall_mem_cons.2 ⟨hf.value hfa, List.forall_mem_singleton.2 (hg.value hgb)⟩)

/-- **A record of two fields takes the objects and the arrays of its fields off the front.** -/
theorem run_record₂_iff (hkeys : g.key ≠ f.key) (hf : Exact f.reader) (hg : Exact g.reader) :
    (record₂ f g).run ts = .ok ((a, b), rest) ↔
      ∃ front, ts = front ++ rest ∧ IsRecord f g a b front := by
  constructor
  · intro h
    simp only [record₂] at h
    split at h
    · obtain ⟨items, htokens, hlisted⟩ := (array₂_iff hf hg).1 h
      exact ⟨_, htokens, .array hlisted⟩
    · obtain ⟨ms, htokens, hvalues, hfa, hgb⟩ := (object₂_iff hkeys hf hg).1 h
      exact ⟨_, htokens, .object hvalues hfa hgb⟩
    · cases h
  · rintro ⟨front, rfl, hrecord⟩
    cases hrecord with
    | @object ms hvalues hfa hgb =>
      exact (object₂_iff hkeys hf hg).2 ⟨ms, rfl, hvalues, hfa, hgb⟩
    | @array items h => exact (array₂_iff hf hg).2 ⟨items, rfl, h⟩

theorem reads_record₂_iff (hkeys : g.key ≠ f.key) (hf : Exact f.reader) (hg : Exact g.reader) :
    Reads (record₂ f g) ts (a, b) ↔ IsRecord f g a b ts := by
  constructor
  · intro h
    obtain ⟨front, hfront, hrecord⟩ := (run_record₂_iff hkeys hf hg).1 (h [])
    rwa [List.append_cancel_right hfront]
  · intro h rest
    exact (run_record₂_iff hkeys hf hg).2 ⟨ts, rfl, h⟩

theorem exact_record₂ (hkeys : g.key ≠ f.key) (hf : Exact f.reader) (hg : Exact g.reader) :
    Exact (record₂ f g) where
  front {ts rest pair} h := by
    obtain ⟨front, hfront, hrecord⟩ := (run_record₂_iff hkeys hf hg).1 h
    exact ⟨front, hfront, (reads_record₂_iff hkeys hf hg).2 hrecord⟩
  value h := isValue_of_isRecord hf hg ((reads_record₂_iff hkeys hf hg).1 h)

end Reader

/-! ### Whole texts -/

theorem isWhole_of_mem_joined {parts : List (List Token)}
    (h : ∀ part ∈ parts, ∀ t ∈ part, t.isWhole = true) :
    ∀ t ∈ [Token.comma].intercalate parts, t.isWhole = true := by
  cases parts with
  | nil => exact nofun
  | cons part parts =>
    rw [joined_cons]
    intro t ht
    rcases List.mem_append.1 ht with hfirst | hmore
    · exact h part List.mem_cons_self t hfirst
    · obtain ⟨next, hnext, htnext⟩ := List.mem_flatMap.1 hmore
      rcases List.mem_cons.1 htnext with rfl | htnext
      · rfl
      · exact h next (List.mem_cons_of_mem _ hnext) t htnext

theorem isWhole_of_mem_tokens {bracket : Bracket} {parts : List (List Token)}
    (h : ∀ part ∈ parts, ∀ t ∈ part, t.isWhole = true) :
    ∀ t ∈ bracket.tokens parts, t.isWhole = true := by
  intro t ht
  rcases List.mem_append.1 ht with hfront | hcloser
  · rcases List.mem_cons.1 hfront with rfl | hjoined
    · cases bracket <;> rfl
    · exact isWhole_of_mem_joined h t hjoined
  · obtain rfl := List.mem_singleton.1 hcloser
    cases bracket <;> rfl

theorem IsValue.isWhole {ts : List Token} (h : IsValue ts) : ∀ t ∈ ts, t.isWhole = true := by
  induction h with
  | @scalar t h =>
    refine List.forall_mem_singleton.2 ?_
    cases t with
    | null | truth | number | text => rfl
    | _ => cases h
  | array _ ih => exact isWhole_of_mem_tokens ih
  | object _ ih =>
    refine isWhole_of_mem_tokens fun part hpart => ?_
    obtain ⟨member, hmember, rfl⟩ := List.mem_map.1 hpart
    exact List.forall_mem_cons.2 ⟨rfl, List.forall_mem_cons.2 ⟨rfl, ih member hmember⟩⟩

/-- **A whole text is read exactly when it writes the tokens of a value that the reader takes.** -/
theorem Reader.Exact.read_iff {α : Type} {reader : Reader α} (hreader : Exact reader)
    {source : String} {a : α} :
    reader.read source = .ok a ↔ ∃ ts, Writing source.toList ts ∧ Reads reader ts a := by
  constructor
  · intro h
    unfold Reader.read readTokens at h
    split at h
    · cases h
    · rename_i hrun
      cases h
      have hreads := hreader.reads hrun
      exact ⟨_, writing_iff.2 ⟨rfl, (hreader.value hreads).isWhole⟩, hreads⟩
    · cases h
  · rintro ⟨ts, hwriting, hreads⟩
    exact hreads.read_tokens hwriting.ofText_eq

end BroadcastChat.Json
