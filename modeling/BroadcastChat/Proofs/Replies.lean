/-
# What a response tells is read back

The hub's answers over HTTP are a list of names, a count and a complaint. Each
is printed as a record of one field and read back as it was, whatever its texts
hold; a count as long as a word holds it. So a client that knows the status
learns exactly what the hub had to say.

Key theorems: `Json.spells_array`, `Json.Reader.reads_list`,
`Json.Reader.reads_record₁`, `Roster.read_json`, `Receipt.read_json`,
`Complaint.read_json`, `Client.namesOf_roster`, `Client.receiptOf_receipt`,
`Client.receiptOf_complaint`.
-/
import BroadcastChat.Client.Api
import BroadcastChat.Proofs.Exactness

namespace BroadcastChat

open Json Json.Reader

/-! ### Arrays and records of one field -/

namespace Json

/-- **An array is spelled item by item**, from printed values and what spells them. -/
theorem spells_array (items : List (String × List Token))
    (h : ∀ item ∈ items, Spells item.1.toList item.2) :
    Spells (array (items.map Prod.fst)).toList (Bracket.array.tokens (items.map Prod.snd)) := by
  have hend : Spells [']'] [.closeArray] := spells_nil.punctuated (by decide) rfl
  have hinner := (spells_joined h).append (closing_cons (by decide)) hend
  rw [array, Bracket.tokens, String.toList_append, String.toList_append, List.append_assoc]
  exact hinner.punctuated (by decide) rfl

theorem spells_single {value : String} {ts : List Token} (key : String)
    (h : Spells value.toList ts) :
    Spells (object [(key, value)]).toList (objectTokens [(key, ts)]) :=
  spells_object [(key, value, ts)] (List.forall_mem_singleton.2 h)

namespace Reader

variable {α : Type} {reader : Reader α} {ts : List Token} {a : α}

theorem items_end {before : List α} (tail : List Token) :
    items reader before (.closeArray :: tail) = .ok (before.reverse, .closeArray :: tail) := by
  have hnext : nextItem before.isEmpty (.closeArray :: tail) = .ok none :=
    nextItem_iff.2 (.inl ⟨rfl, tail, rfl⟩)
  rw [items.eq_def]
  split
  all_goals
    rename_i heq
    cases hnext.symm.trans heq
  rfl

/-- What the reader takes is the next item, behind a comma unless it is the first. -/
theorem items_step (hreader : Exact reader) (h : Reads reader ts a) (before : List α)
    (rest : List Token) :
    items reader before ((if before.isEmpty then [] else [.comma]) ++ (ts ++ rest)) =
      items reader (a :: before) rest := by
  obtain ⟨t, tail, hcons, hne⟩ := (hreader.value h).exists_cons
  have hnext : nextItem before.isEmpty
      ((if before.isEmpty then [] else [.comma]) ++ (ts ++ rest)) = .ok (some (ts ++ rest)) :=
    nextItem_iff.2 (.inr ⟨t, tail ++ rest, by rw [hcons]; rfl, hne .array, by rw [hcons]; rfl⟩)
  have hrun := h rest
  rw [items.eq_def]
  split
  all_goals
    rename_i heq
    cases hnext.symm.trans heq
  split
  all_goals
    rename_i hread
    cases hrun.symm.trans hread
  rfl

theorem items_more (hreader : Exact reader) {tss : List (List Token)} {as : List α}
    (h : List.Forall₂ (Reads reader) tss as) {before : List α} (hbefore : before.isEmpty = false)
    (rest : List Token) :
    items reader before ((tss.flatMap fun ts => .comma :: ts) ++ .closeArray :: rest) =
      .ok (before.reverse ++ as, .closeArray :: rest) := by
  induction h generalizing before with
  | nil =>
    rw [List.append_nil]
    exact items_end rest
  | @cons ts a tss as hfirst _ ih =>
    have hstep := items_step hreader hfirst before
      ((tss.flatMap fun ts => .comma :: ts) ++ .closeArray :: rest)
    rw [hbefore] at hstep
    rw [List.flatMap_cons, List.append_assoc]
    refine hstep.trans ((ih rfl).trans ?_)
    rw [List.reverse_cons, List.append_assoc, List.singleton_append]

/-- **A list is read from an array of what its items are read from.** -/
theorem reads_list (hreader : Exact reader) {tss : List (List Token)} {as : List α}
    (h : List.Forall₂ (Reads reader) tss as) :
    Reads (list reader) (Bracket.array.tokens tss) as := by
  intro rest
  have hitems : items reader [] ([.comma].intercalate tss ++ .closeArray :: rest) =
      .ok (as, .closeArray :: rest) := by
    cases h with
    | nil => exact items_end rest
    | @cons ts a tss as hfirst hmore =>
      rw [joined_cons, List.append_assoc]
      exact (items_step hreader hfirst [] _).trans (items_more hreader hmore rfl rest)
  have hrun : (list reader).run (.openArray :: ([.comma].intercalate tss ++ .closeArray :: rest)) =
      .ok (as, rest) := by
    change (items reader [] ([.comma].intercalate tss ++ .closeArray :: rest) >>= _) = _
    rw [hitems]
    rfl
  rw [Bracket.tokens, List.cons_append, List.cons_append, List.append_assoc]
  exact hrun

theorem reads_record₁ {f : Field α} (hf : Reads f.reader ts a) :
    Reads (record₁ f) (objectTokens [(f.key, ts)]) a := by
  intro rest
  have hslot : slot₁ f f.key none = .ok (f.reader.map some) := if_pos rfl
  have hmembers : members (slot₁ f) none (.text (some f.key) :: .colon :: ts ++
      .closeObject :: rest) = .ok (some a, rest) := members_member hslot (hf.map some) _
  have htokens : objectTokens [(f.key, ts)] ++ rest =
      .openObject :: (.text (some f.key) :: .colon :: ts ++ .closeObject :: rest) := by
    simp [objectTokens]
  rw [htokens]
  change (members (slot₁ f) none (.text (some f.key) :: .colon :: ts ++ _) >>= _) = _
  rw [hmembers]
  rfl

end Reader

end Json

/-! ### The hub's answers -/

theorem Roster.read_json (roster : Roster) : Roster.reader.read roster.json = .ok roster := by
  have hitems : List.Forall₂ (Reads Reader.text)
      (roster.names.map fun name => [.text (some name)]) roster.names :=
    List.forall₂_map_left_iff.2 (List.forall₂_same.2 fun name _ => reads_text name)
  have hreads : Reads Roster.reader _ roster :=
    (reads_record₁ (f := .required "names" (.list .text)) (reads_list exact_text hitems)).map _
  have hspells : Spells (Json.array (roster.names.map Quoted.encode)).toList
      (Bracket.array.tokens (roster.names.map fun name => [.text (some name)])) := by
    have harray := spells_array (roster.names.map fun name =>
      (Quoted.encode name, [.text (some name)])) (by
        intro item hitem
        obtain ⟨name, -, rfl⟩ := List.mem_map.1 hitem
        exact spells_encode name)
    rwa [List.map_map, List.map_map] at harray
  exact hreads.read (spells_single "names" hspells)

theorem Receipt.spells_json {receipt : Receipt} (h : receipt.delivered ≤ Word.unsignedMax) :
    Spells receipt.json.toList
      (objectTokens [("delivered", [.number (.integer receipt.delivered)])]) := by
  have hlow : Word.signedMin ≤ (receipt.delivered : Int) := by
    have hbound : Word.signedMin ≤ 0 := by decide
    exact Int.le_trans hbound (Int.natCast_nonneg _)
  have hspells : Spells (toString (receipt.delivered : Int)).toList
      [.number (.integer receipt.delivered)] := spells_integer hlow (Int.ofNat_le.2 h)
  exact spells_single "delivered" hspells

theorem Receipt.reads_reader {receipt : Receipt} (h : receipt.delivered ≤ Word.unsignedMax) :
    Reads Receipt.reader (objectTokens [("delivered", [.number (.integer receipt.delivered)])])
      receipt := by
  have hcount : Reads (integer 0 Word.unsignedMax) [.number (.integer receipt.delivered)]
      (receipt.delivered : Int) := reads_integer ⟨Int.natCast_nonneg _, Int.ofNat_le.2 h⟩
  have hrecord : Reads (record₁ (.required "delivered" (integer 0 Word.unsignedMax)))
      (objectTokens [("delivered", [.number (.integer receipt.delivered)])])
      (receipt.delivered : Int) :=
    reads_record₁ (f := .required "delivered" (integer 0 Word.unsignedMax)) hcount
  have hreceipt := hrecord.map fun count => (⟨count.toNat⟩ : Receipt)
  rwa [Int.toNat_natCast] at hreceipt

theorem Receipt.read_json {receipt : Receipt} (h : receipt.delivered ≤ Word.unsignedMax) :
    Receipt.reader.read receipt.json = .ok receipt :=
  (reads_reader h).read (spells_json h)

theorem Complaint.read_json (complaint : Complaint) :
    Complaint.reader.read complaint.json = .ok complaint := by
  have hreads : Reads Complaint.reader _ complaint :=
    (reads_record₁ (f := .required "error" .text) (reads_text complaint.error)).map
      fun error => (⟨error⟩ : Complaint)
  exact hreads.read (spells_single "error" (spells_encode complaint.error))

theorem Json.Reader.readBytes_encode {α : Type} (reader : Reader α) (text : String) :
    reader.readBytes (Text.Utf8.encode text) = reader.read text := by
  rw [readBytes, sourceOfBytes_encode]

/-! ### What the client makes of them -/

namespace Client

open Text (Utf8.encode)

theorem namesOf_roster (roster : Roster) :
    namesOf 200 (Utf8.encode roster.json) = .ok roster.names := by
  have hcontent : contentOf 200 (Utf8.encode roster.json) = Utf8.encode roster.json :=
    if_neg (by decide)
  rw [namesOf, if_neg (by decide), hcontent, readBytes_encode, roster.read_json]

theorem receiptOf_receipt {receipt : Receipt} (h : receipt.delivered ≤ Word.unsignedMax)
    (sender : String) :
    receiptOf sender 202 (Utf8.encode receipt.json) = .ok receipt.delivered := by
  have hcontent : contentOf 202 (Utf8.encode receipt.json) = Utf8.encode receipt.json :=
    if_neg (by decide)
  rw [receiptOf, if_pos (by decide), hcontent, readBytes_encode, Receipt.read_json h]

theorem receiptOf_missing (sender : String) (body : List UInt8) :
    receiptOf sender 404 body = .error (.notSubscribed sender) := rfl

theorem receiptOf_complaint (sender : String) (complaint : Complaint) :
    receiptOf sender 400 (Utf8.encode complaint.json) = .error (.rejected 400 complaint.error) := by
  have hcontent : contentOf 400 (Utf8.encode complaint.json) = Utf8.encode complaint.json :=
    if_neg (by decide)
  rw [receiptOf, if_neg (by decide), if_neg (by decide), rejectionText, hcontent, readBytes_encode,
    complaint.read_json]

end Client

end BroadcastChat
