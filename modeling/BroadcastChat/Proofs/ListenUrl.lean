/-
# The address to listen at carries the name

Where a client listens is written as a URL: what hangs on host and port, then
the name in the query. A form's value is written in ASCII and without what
separates values (`Text.Form.not_separator_of_mem_encode`), and nothing before
the path of a URL starts a query (`Url.unbroken_authority`), so the query of
the written URL (`Url.queryOf`) is what was written into it and the server reads
the name out of it again.

Key definitions: `Url.queryOf`, `Url.nameQuery`.
Key theorems: `Text.Form.not_separator_of_mem_encode`, `Url.queryOf_behind`,
`Url.text_appendName`, `Server.reply_listen`, `listen_url_carries_the_name`.
-/
import BroadcastChat.Network
import BroadcastChat.Proofs.Gateway
import BroadcastChat.Proofs.Hosts
import BroadcastChat.Proofs.Queries
import Mathlib.Data.List.TakeWhile

namespace BroadcastChat

/-! ### Values of forms -/

namespace Text.Form

/-- What separates values in a query or ends it, and the space. -/
def separators : List Char := ['&', '=', '#', ' ']

theorem not_separator_of_mem_escape {byte : UInt8} {c : Char} (h : c ∈ escape byte) :
    c ∉ separators := by
  unfold escape at h
  split at h
  · rename_i hplain
    rw [List.mem_singleton] at h
    have hbyte : byte = UInt8.ofNat c.toNat := by rw [h, Percent.ofNat_charOfByte]
    intro hc
    have hnot : separators.all (fun d => !isPlain (UInt8.ofNat d.toNat)) = true := by decide
    have hcplain := List.all_eq_true.1 hnot c hc
    rw [← hbyte, hplain] at hcplain
    cases hcplain
  split at h
  · rw [List.mem_singleton] at h
    subst h
    decide
  · have hdigit : ∀ n < 16, Hex.upper n ∉ separators := by decide
    rcases Percent.mem_escape h with rfl | ⟨n, hn, rfl⟩
    · decide
    · exact hdigit n hn

/-- **A written value is in ASCII and separates nothing.** -/
theorem not_separator_of_mem_encode {text : String} {c : Char} (h : c ∈ (encode text).toList) :
    c.toNat < 128 ∧ c ∉ separators := by
  rw [encode, String.toList_ofList] at h
  obtain ⟨byte, -, hc⟩ := List.mem_flatMap.1 h
  exact ⟨escape_ascii byte c hc, not_separator_of_mem_escape hc⟩

end Text.Form

/-! ### The query of a written URL -/

namespace Url

theorem splitAtMark_of_not_mem {mark : Char} {cs : List Char} (h : mark ∉ cs) :
    splitAtMark mark cs = (cs, none) := by
  have hall : ∀ c ∈ cs, decide (c ≠ mark) = true :=
    fun c hc => decide_eq_true (ne_of_mem_of_not_mem hc h)
  have hdrop : cs.dropWhile (· ≠ mark) = [] := List.dropWhile_eq_nil_iff.2 hall
  rw [splitAtMark, hdrop]

theorem splitAtMark_append {mark : Char} {cs : List Char} (h : mark ∉ cs) (ds : List Char) :
    splitAtMark mark (cs ++ mark :: ds) = (cs, some ds) := by
  have hall : ∀ c ∈ cs, decide (c ≠ mark) = true :=
    fun c hc => decide_eq_true (ne_of_mem_of_not_mem hc h)
  rw [splitAtMark, List.dropWhile_append_of_pos hall, List.takeWhile_append_of_pos hall]
  simp

/-- The query of a written URL: what stands behind its first question mark, up to a hash sign. -/
def queryOf (written : String) : Option String :=
  (splitAtMark '?' (splitAtMark '#' written.toList).1).2.map String.ofList

theorem queryOf_behind {before query : String} (hmark : '?' ∉ before.toList)
    (hbefore : '#' ∉ before.toList) (hquery : '#' ∉ query.toList) :
    queryOf (before ++ "?" ++ query) = some query := by
  have htext : (before ++ "?" ++ query).toList = before.toList ++ '?' :: query.toList := by
    simp [String.toList_append]
  have hhash : '#' ∉ before.toList ++ '?' :: query.toList := by
    simp only [List.mem_append, List.mem_cons, not_or]
    exact ⟨hbefore, by decide, hquery⟩
  rw [queryOf, htext, splitAtMark_of_not_mem hhash, splitAtMark_append hmark]
  simp

/-- What stands before the query of a URL that was read is neither a query nor a fragment. -/
theorem not_mem_base {cs : List Char} {url : Url} (h : parse cs = .ok url) {mark : Char}
    (hmark : endsAuthority mark = true) (hscheme : mark ∉ "ws://".toList)
    (hpath : mark ∉ url.path) :
    mark ∉ url.base := by
  rw [base_eq]
  simp only [List.mem_append, not_or]
  refine ⟨hscheme, fun hm => ?_, hpath⟩
  have hnot := unbroken_authority h mark hm
  rw [hmark] at hnot
  cases hnot

/-- What is written for a name in a query. -/
def nameQuery (name : String) : String := "name=" ++ Text.Form.encode name

theorem text_appendName {url : Url} (hquery : url.query = none) (hfragment : url.fragment = none)
    (name : String) : (url.appendPair "name" name).text =
      String.ofList url.base ++ "?" ++ nameQuery name := by
  have hbase : (url.appendPair "name" name).base = url.base := rfl
  have hkey : Text.Form.encode "name" = "name" := by decide
  apply String.toList_injective
  rw [text, hbase]
  simp [appendPair, marked, nameQuery, hquery, hfragment, hkey]

/-- What is asked for at a URL without query, with a name in its query. -/
theorem targetOf_appendName {url : Url} (hquery : url.query = none) (name : String) :
    Network.targetOf (url.appendPair "name" name) =
      ⟨String.ofList url.path, nameQuery name⟩ := by
  have hkey : Text.Form.encode "name" = "name" := by decide
  refine congrArg₂ Http.Target.mk rfl (String.toList_injective ?_)
  simp [appendPair, nameQuery, hquery, hkey]

/-- No hash sign is written for a name. -/
theorem not_mem_nameQuery (name : String) : '#' ∉ (nameQuery name).toList := by
  rw [nameQuery, String.toList_append, List.mem_append, not_or]
  refine ⟨by decide, fun hm => ?_⟩
  exact (Text.Form.not_separator_of_mem_encode hm).2 (by decide)

end Url

/-! ### Listening -/

namespace Server

theorem listenName_of_pairs {query : String} {name : Name}
    (h : Text.Form.pairs query = [("name", name.text)]) : listenName query = .ok name := by
  rw [listenName, h]
  simp [Name.ofString_text, Except.mapError]

/-- A client that asks for a socket to listen under a name gets it. -/
theorem reply_listen (time : Timestamp) (hub : Hub) {query : String} {name : Name}
    (h : Text.Form.pairs query = [("name", name.text)]) :
    reply time (Client.socketRequest ⟨Route.listen.path, query⟩) hub =
      (.socket (.listen name), hub) := by
  have hroute : Route.ofPath? Route.listen.path = some .listen := by decide
  have htaken : Route.listen.methods.contains "GET" = true := by decide
  have hserve : serve time (Client.socketRequest ⟨Route.listen.path, query⟩) hub .listen =
      (.socket (.listen name), hub) := by
    rw [serve, show (Client.socketRequest ⟨Route.listen.path, query⟩).target.query = query from rfl,
      listenName_of_pairs h]
    exact congrArg (·, hub) (handshake_ok (socketRefusal?_socketRequest _))
  rw [reply, show (Client.socketRequest ⟨Route.listen.path, query⟩).target.path =
    Route.listen.path from rfl, hroute]
  dsimp only
  rw [show (Client.socketRequest ⟨Route.listen.path, query⟩).method = "GET" from rfl, if_pos htaken,
    hserve]

end Server

/-- **The address to listen at carries the name.** Where a host and a port give a URL with the path
to listen at and neither query nor fragment, the address to listen at under a name is a text that
hangs on host and port only, then `?name=` and an ASCII text without what separates values. The
query of this address is one pair, the name under its key; a client asks for just this query, and
the server lets it listen under just this name. -/
theorem listen_url_carries_the_name {address : Client.Address} {url : Url}
    (hurl : address.url Server.Route.listen.path = .ok url)
    (hpath : url.path = Server.Route.listen.path.toList) (hquery : url.query = none)
    (hfragment : url.fragment = none) :
    ∃ before : String, ∀ name : Name, ∃ written : String,
      address.listenUrl name.text = .ok (before ++ "?name=" ++ written) ∧
      (∀ c ∈ written.toList, c.toNat < 128 ∧ c ∉ ['&', '=', '#', ' ']) ∧
      ∃ query, Url.queryOf (before ++ "?name=" ++ written) = some query ∧
        Text.Form.pairs query = [("name", name.text)] ∧
        Network.destination address false name =
          .ok (before ++ "?name=" ++ written, ⟨Server.Route.listen.path, query⟩) ∧
        ∀ (time : Timestamp) (hub : Hub),
          Server.reply time (Client.socketRequest ⟨Server.Route.listen.path, query⟩) hub =
            (.socket (.listen name), hub) := by
  refine ⟨String.ofList url.base, fun name => ⟨Text.Form.encode name.text, ?_⟩⟩
  have hbehind : String.ofList url.base ++ "?name=" ++ Text.Form.encode name.text =
      String.ofList url.base ++ "?" ++ Url.nameQuery name.text := by
    apply String.toList_injective
    simp [Url.nameQuery]
  have hlisten : address.listen name.text = .ok (url.appendPair "name" name.text) := by
    rw [Client.Address.listen, show address.url "/ws/listen" = .ok url from hurl]
  have htext := Url.text_appendName hquery hfragment name.text
  have htarget : Network.targetOf (url.appendPair "name" name.text) =
      ⟨Server.Route.listen.path, Url.nameQuery name.text⟩ := by
    rw [Url.targetOf_appendName hquery, hpath, String.ofList_toList]
  have hpairs : Text.Form.pairs (Url.nameQuery name.text) = [("name", name.text)] :=
    Text.Form.pairs_encode name.text
  rw [hbehind]
  refine ⟨?_, fun c hc => Text.Form.not_separator_of_mem_encode hc, Url.nameQuery name.text, ?_,
    hpairs, ?_, fun time hub => Server.reply_listen time hub hpairs⟩
  · rw [Client.Address.listenUrl, hlisten, ← htext]
    rfl
  · have hpathMark : ∀ mark ∈ ['?', '#'], mark ∉ url.path := by
      rw [hpath]
      simp [Server.Route.path]
    refine Url.queryOf_behind ?_ ?_ (Url.not_mem_nameQuery name.text)
    · rw [String.toList_ofList]
      exact Url.not_mem_base hurl (by decide) (by decide) (hpathMark '?' (by decide))
    · rw [String.toList_ofList]
      exact Url.not_mem_base hurl (by decide) (by decide) (hpathMark '#' (by decide))
  · rw [Network.destination, if_neg Bool.false_ne_true, hlisten, ← htext, ← htarget]
    rfl

namespace Sample

/-- A server on the same machine. -/
def nearby : Client.Address := ⟨"[::1]", 15001⟩

/-- Its URL to listen at. -/
def nearbyUrl : Url :=
  ⟨[], [], .ipv6 ⟨[0, 0, 0, 0, 0, 0, 0, 1]⟩, some 15001, ["ws".toList, "listen".toList], none, none⟩

/-- A name made of what separates values, and of a character of two bytes. -/
def thorny : Name := ⟨"50% & é=+#", by decide, by decide⟩

end Sample

/-- A name that looks like a query itself is found again. -/
theorem listen_url_carries_the_name_thorny :
    Sample.nearby.url Server.Route.listen.path = .ok Sample.nearbyUrl ∧
      Sample.nearbyUrl.path = Server.Route.listen.path.toList ∧ Sample.nearbyUrl.query = none ∧
      Sample.nearbyUrl.fragment = none ∧
      ∃ before written query, Sample.nearby.listenUrl Sample.thorny.text =
          .ok (before ++ "?name=" ++ written) ∧
        Url.queryOf (before ++ "?name=" ++ written) = some query ∧
        Text.Form.pairs query = [("name", "50% & é=+#")] ∧
        Server.reply ⟨1⟩ (Client.socketRequest ⟨Server.Route.listen.path, query⟩) (.new {}) =
          (.socket (.listen Sample.thorny), .new {}) := by
  have hurl : Sample.nearby.url Server.Route.listen.path = .ok Sample.nearbyUrl := rfl
  have hpath : Sample.nearbyUrl.path = Server.Route.listen.path.toList := by decide
  obtain ⟨before, hnames⟩ := listen_url_carries_the_name hurl hpath rfl rfl
  obtain ⟨written, hlisten, -, query, hquery, hpairs, -, hreply⟩ := hnames Sample.thorny
  exact ⟨hurl, hpath, rfl, rfl, before, written, query, hlisten, hquery, hpairs,
    hreply ⟨1⟩ (.new {})⟩

end BroadcastChat
